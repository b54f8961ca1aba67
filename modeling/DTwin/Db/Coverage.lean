import DTwin.Copilot.Windows
import DTwin.Db.Rollups
import DTwin.Ingest.Poison

/-!
# DTwin.Db.Coverage — how many buckets are expected

`bucketStartsIn` and `expectedUpToNow` of `packages/db/src/queries/copilot.ts` against what the queries count, the rows
with a mean that start in the window.  What is expected ends with the clock of the server, and the rows do not: a
device may be ahead of it, and a bucket that it has just begun is counted and not expected.  No more is counted than is
expected, whatever is stored, unless a bucket of the window begins within the skew from now on (`covered_iff`).
-/

namespace DTwin.Db.Coverage

open Series Tables Buckets Rollups Energy Ingest
open Copilot (bucketsIn coveragePct coveragePct_le)

/-! ## What is counted -/

/-- A stored reading.  A value that is not finite is flagged, and no row is made of it. -/
def sampleOf {sensors : Sensors} (r : OwnedReading sensors) : Sample Uuid where
  time := r.ts
  sensorId := r.sensorId
  value := match r.value with
    | .finite v => v
    | _ => 0
  quality := r.quality.code

section Count

variable {ι : Type} [DecidableEq ι]

/-- `count(a.avg_value)` for a sensor. -/
def goodBuckets (w : Width) (telemetry : List (Sample ι)) (fromMs toMs : ℤ) (sensorId : ι) : ℕ :=
  ((rowsIn w telemetry fromMs toMs sensorId).map RollupRow.avgValue).reduceOption.length

end Count

/-! ## What can be stored -/

/-- Readings that the ingest path can have accepted by now. -/
def Stored {sensors : Sensors} (cfg : PipelineConfig) (now : ℤ) (readings : List (OwnedReading sensors)) : Prop :=
  ∀ r ∈ readings, ∃ (registry : Registry sensors) (tenantId : Uuid) (batch : RawTelemetryBatch) (arrival : ℤ),
    arrival ≤ now ∧ r ∈ accepted cfg registry tenantId batch arrival

/-- Of whatever is stored, no more is counted than is expected; and what is expected of a window is the bucket starts
in it. -/
structure Covered (cfg : PipelineConfig) (w : Width) (fromMs toMs now : ℤ) : Prop where
  coverage : ∀ (sensors : Sensors) (readings : List (OwnedReading sensors)), Stored cfg now readings → ∀ id,
    (goodBuckets w (readings.map sampleOf) fromMs toMs id : ℤ) ≤ expectedUpToNow fromMs toMs w.seconds now
  percent : ∀ (sensors : Sensors) (readings : List (OwnedReading sensors)), Stored cfg now readings →
    ∀ ids : List Uuid, ∀ p ∈ coveragePct (ids.map (goodBuckets w (readings.map sampleOf) fromMs toMs)).sum
      (ids.length * expectedUpToNow fromMs toMs w.seconds now), p ≤ 100
  counts : bucketStartsIn fromMs toMs w.seconds = ((Finset.Ico fromMs toMs).filter fun b => timeBucket w b = b).card
  additive : ∀ mid, fromMs ≤ mid → mid ≤ toMs →
    bucketStartsIn fromMs mid w.seconds + bucketStartsIn mid toMs w.seconds = bucketStartsIn fromMs toMs w.seconds
  agrees : (bucketsIn fromMs toMs w.seconds : ℤ) = bucketStartsIn fromMs toMs w.seconds

/-! ## The bucket starts of a window -/

noncomputable def starts (w : Width) (fromMs toMs : ℤ) : Finset ℤ :=
  (Finset.Ico fromMs toMs).filter fun b => timeBucket w b = b

theorem mem_starts {w : Width} {fromMs toMs b : ℤ} :
    b ∈ starts w fromMs toMs ↔ (fromMs ≤ b ∧ b < toMs) ∧ timeBucket w b = b := by
  rw [starts, Finset.mem_filter, Finset.mem_Ico]

theorem timeBucket_eq_self_iff {w : Width} {b : ℤ} : timeBucket w b = b ↔ w.ms ∣ b :=
  bucketAt_eq_self_iff (ms_pos w) (ms_dvd_origin w)

theorem bucketStartsIn_eq_card (w : Width) (fromMs toMs : ℤ) :
    bucketStartsIn fromMs toMs w.seconds = (starts w fromMs toMs).card := by
  have hdvd : starts w fromMs toMs = (Finset.Ico fromMs toMs).filter (w.ms ∣ ·) := by
    unfold starts
    exact Finset.filter_congr fun b _ => timeBucket_eq_self_iff
  have hms : ((w.ms : ℤ) : ℚ) = w.seconds * 1000 := by
    rw [Width.ms]
    push_cast
    rfl
  rw [hdvd, Int.Ico_filter_dvd_card _ _ (ms_pos w), bucketStartsIn, max_comm, hms]

/-- **A window cut in two.** -/
theorem bucketStartsIn_add (w : Width) {fromMs mid toMs : ℤ} (h : fromMs ≤ mid) (h' : mid ≤ toMs) :
    bucketStartsIn fromMs mid w.seconds + bucketStartsIn mid toMs w.seconds =
      bucketStartsIn fromMs toMs w.seconds := by
  have hsplit : starts w fromMs toMs = starts w fromMs mid ∪ starts w mid toMs := by
    ext b
    simp only [Finset.mem_union, mem_starts]
    constructor
    · rintro ⟨⟨hlo, hhi⟩, hb⟩
      rcases lt_or_ge b mid with hless | hmore
      · exact Or.inl ⟨⟨hlo, hless⟩, hb⟩
      · exact Or.inr ⟨⟨hmore, hhi⟩, hb⟩
    · rintro (⟨⟨hlo, hhi⟩, hb⟩ | ⟨⟨hlo, hhi⟩, hb⟩)
      · exact ⟨⟨hlo, hhi.trans_le h'⟩, hb⟩
      · exact ⟨⟨h.trans hlo, hhi⟩, hb⟩
  have hdisjoint : Disjoint (starts w fromMs mid) (starts w mid toMs) := by
    refine Finset.disjoint_left.mpr fun b hb hb' => ?_
    have hless := (mem_starts.mp hb).1.2
    have hmore := (mem_starts.mp hb').1.1
    omega
  rw [bucketStartsIn_eq_card, bucketStartsIn_eq_card, bucketStartsIn_eq_card, hsplit,
    Finset.card_union_of_disjoint hdisjoint]
  push_cast
  rfl

/-! ## The buckets that are counted -/

section Good

variable {ι : Type} [DecidableEq ι] {w : Width} {telemetry : List (Sample ι)} {fromMs toMs : ℤ} {id : ι}

/-- The buckets with a mean. -/
def goodStarts (w : Width) (telemetry : List (Sample ι)) (fromMs toMs : ℤ) (id : ι) : List ℤ :=
  ((rowsIn w telemetry fromMs toMs id).filter fun a => a.avgValue.isSome).map RollupRow.bucket

theorem goodBuckets_eq_length :
    goodBuckets w telemetry fromMs toMs id = (goodStarts w telemetry fromMs toMs id).length := by
  unfold goodBuckets goodStarts
  rw [List.length_map]
  induction rowsIn w telemetry fromMs toMs id with
  | nil => rfl
  | cons a rows ih =>
    rcases ha : a.avgValue with - | v
    · simpa [ha, List.reduceOption_cons_of_none] using ih
    · simpa [ha, List.reduceOption_cons_of_some] using ih

theorem nodup_goodStarts : (goodStarts w telemetry fromMs toMs id).Nodup := by
  have hsorted := groups_sorted (fun r : Sample ι => timeBucket w r.time) (telemetry.filter fun r => r.sensorId = id)
  have hrollup : ((rollup w telemetry id).map RollupRow.bucket).Nodup := by
    unfold rollup
    rw [List.map_map]
    exact List.pairwise_map.mpr (hsorted.imp fun hlt => hlt.ne)
  exact hrollup.sublist ((List.filter_sublist.trans List.filter_sublist).map RollupRow.bucket)

/-- A bucket is counted exactly if it is one of the window and of a good sample. -/
theorem mem_goodStarts {b : ℤ} : b ∈ goodStarts w telemetry fromMs toMs id ↔
    (fromMs ≤ b ∧ b < toMs) ∧ ∃ r ∈ telemetry, r.sensorId = id ∧ r.quality = 0 ∧ timeBucket w r.time = b := by
  have hsome : ∀ g : ℤ × List (Sample ι), (rowOf g).avgValue.isSome ↔ good g.2 ≠ [] := by
    intro g
    rw [Ne, ← avgValue_rowOf, Option.isSome_iff_ne_none]
  unfold goodStarts
  rw [rowsIn_eq]
  constructor
  · intro hb
    obtain ⟨a, ha, rfl⟩ := List.mem_map.mp hb
    obtain ⟨ha, havg⟩ := List.mem_filter.mp ha
    obtain ⟨g, hg, rfl⟩ := List.mem_map.mp ha
    obtain ⟨hg, hwindow⟩ := List.mem_filter.mp hg
    obtain ⟨b, -, rfl⟩ := List.mem_map.mp hg
    obtain ⟨r, hr⟩ := List.exists_mem_of_ne_nil _ ((hsome _).mp havg)
    obtain ⟨hr, hquality⟩ := List.mem_filter.mp hr
    obtain ⟨hr, hbucket⟩ := List.mem_filter.mp hr
    obtain ⟨hr, hsensor⟩ := List.mem_filter.mp hr
    exact ⟨of_decide_eq_true hwindow, r, hr, of_decide_eq_true hsensor, of_decide_eq_true hquality,
      of_decide_eq_true hbucket⟩
  · rintro ⟨hwindow, r, hr, hsensor, hquality, rfl⟩
    have hr' : r ∈ telemetry.filter fun r => r.sensorId = id := List.mem_filter.mpr ⟨hr, by simpa using hsensor⟩
    refine List.mem_map.mpr ⟨rowOf (timeBucket w r.time, (telemetry.filter fun r => r.sensorId = id).filter
      fun r' => timeBucket w r'.time = timeBucket w r.time), ?_, rfl⟩
    refine List.mem_filter.mpr ⟨List.mem_map_of_mem (List.mem_filter.mpr ⟨?_, by simpa using hwindow⟩), ?_⟩
    · refine List.mem_map.mpr ⟨timeBucket w r.time, ?_, rfl⟩
      rw [List.mem_insertionSort, List.mem_dedup]
      exact List.mem_map.mpr ⟨r, hr', rfl⟩
    · refine (hsome _).mpr (List.ne_nil_of_mem (a := r) ?_)
      exact List.mem_filter.mpr ⟨List.mem_filter.mpr ⟨hr', by simp⟩, by simpa using hquality⟩

end Good

/-! ## Coverage -/

variable {cfg : PipelineConfig} {w : Width} {fromMs toMs now : ℤ}

theorem expectedUpToNow_eq_card :
    expectedUpToNow fromMs toMs w.seconds now = (starts w fromMs (min toMs now)).card := by
  have hmin : (if now < toMs then now else toMs) = min toMs now := by
    split_ifs with h
    · exact (min_eq_right h.le).symm
    · exact (min_eq_left (not_lt.mp h)).symm
  rw [expectedUpToNow, hmin, bucketStartsIn_eq_card]

/-- A stored reading is no further ahead of the clock than the skew. -/
theorem Stored.ts_le {sensors : Sensors} {readings : List (OwnedReading sensors)} (h : Stored cfg now readings)
    {r : OwnedReading sensors} (hr : r ∈ readings) : r.ts ≤ now + cfg.maxClockSkewMs := by
  obtain ⟨registry, tenantId, batch, arrival, hbefore, hmem⟩ := h r hr
  obtain ⟨raw, -, sensor, -, hahead, rfl⟩ := mem_accepted.mp hmem
  have hts : raw.ts.getD arrival ≤ arrival + cfg.maxClockSkewMs := not_lt.mp hahead
  show raw.ts.getD arrival ≤ _
  omega

/-- No more is counted than is expected, if no bucket begins within the skew from now on. -/
theorem goodBuckets_le {sensors : Sensors} {readings : List (OwnedReading sensors)} (h : Stored cfg now readings)
    (hnone : ∀ b ∈ starts w fromMs toMs, now ≤ b → now + cfg.maxClockSkewMs < b) (id : Uuid) :
    (goodBuckets w (readings.map sampleOf) fromMs toMs id : ℤ) ≤ expectedUpToNow fromMs toMs w.seconds now := by
  have hsub : (goodStarts w (readings.map sampleOf) fromMs toMs id).toFinset ⊆ starts w fromMs (min toMs now) := by
    intro b hb
    obtain ⟨⟨hfrom, hto⟩, s, hs, -, -, hbucket⟩ := mem_goodStarts.mp (List.mem_toFinset.mp hb)
    obtain ⟨r, hr, rfl⟩ := List.mem_map.mp hs
    have hts : r.ts ≤ now + cfg.maxClockSkewMs := h.ts_le hr
    have hbegin : b ≤ r.ts := hbucket ▸ bucketAt_le (ms_pos w) (ms_dvd_origin w) r.ts
    have hself : timeBucket w b = b :=
      timeBucket_eq_self_iff.mpr (hbucket ▸ dvd_bucketAt (ms_pos w) (ms_dvd_origin w) _)
    have hbefore : b < now := by
      by_contra hlate
      have hahead := hnone b (mem_starts.mpr ⟨⟨hfrom, hto⟩, hself⟩) (not_lt.mp hlate)
      omega
    exact mem_starts.mpr ⟨⟨hfrom, lt_min hto hbefore⟩, hself⟩
  have hcard := Finset.card_le_card hsub
  rw [List.toFinset_card_of_nodup nodup_goodStarts, ← goodBuckets_eq_length] at hcard
  rw [expectedUpToNow_eq_card]
  exact_mod_cast hcard

theorem covered_of_none (hnone : ∀ b ∈ starts w fromMs toMs, now ≤ b → now + cfg.maxClockSkewMs < b) :
    Covered cfg w fromMs toMs now where
  coverage _ _ h id := goodBuckets_le h hnone id
  percent sensors readings h ids := by
    refine coveragePct_le ?_
    have hsum : ∀ ids : List Uuid, ((ids.map (goodBuckets w (readings.map sampleOf) fromMs toMs)).sum : ℤ) ≤
        ids.length * expectedUpToNow fromMs toMs w.seconds now := by
      intro ids
      induction ids with
      | nil => simp
      | cons id ids ih =>
        have hid := goodBuckets_le h hnone id
        rw [List.map_cons, List.sum_cons, List.length_cons]
        push_cast at ih ⊢
        linarith
    exact hsum ids
  counts := bucketStartsIn_eq_card w fromMs toMs
  additive _ := bucketStartsIn_add w
  agrees := (Int.toNat_eq_max _).trans (max_comm _ _)

/-! ## A bucket that has just begun -/

/-- What the path accepts from a device with a clock of its own. -/
def readingAt (ts : ℤ) : OwnedReading ownSensors := readingOf (ownPoint 1) ts (rawAt ts)

theorem stored_readingAt (cfg : PipelineConfig) {now : ℤ} {times : List ℤ}
    (h : ∀ t ∈ times, t ≤ now + cfg.maxClockSkewMs) : Stored cfg now (times.map readingAt) := by
  intro r hr
  obtain ⟨t, ht, rfl⟩ := List.mem_map.mp hr
  refine ⟨ownRegistry, 1, batchAt t, now, le_rfl, mem_accepted.mpr ⟨rawAt t, List.mem_singleton_self _, ownPoint 1, rfl,
    ?_, rfl⟩⟩
  exact not_lt.mpr (h t ht)

theorem sample_readingAt (t : ℤ) : (sampleOf (readingAt t)).time = t ∧ (sampleOf (readingAt t)).sensorId = 1 ∧
    (sampleOf (readingAt t)).quality = 0 := ⟨rfl, rfl, rfl⟩

/-- A device that reported at every start up to one that is within the skew has one bucket more than is expected. -/
theorem expected_lt {b : ℤ} (hb : b ∈ starts w fromMs toMs) (hlate : now ≤ b) :
    expectedUpToNow fromMs toMs w.seconds now <
      goodBuckets w ((((starts w fromMs (b + 1)).toList).map readingAt).map sampleOf) fromMs toMs 1 := by
  obtain ⟨⟨hfrom, hto⟩, hself⟩ := mem_starts.mp hb
  have hmore : starts w fromMs (min toMs now) ⊂ starts w fromMs (b + 1) := by
    refine Finset.ssubset_iff_of_subset (fun x hx => ?_) |>.mpr ⟨b, mem_starts.mpr ⟨⟨hfrom, by omega⟩, hself⟩, ?_⟩
    · obtain ⟨⟨hx₁, hx₂⟩, hx₃⟩ := mem_starts.mp hx
      exact mem_starts.mpr ⟨⟨hx₁, by omega⟩, hx₃⟩
    · intro hmem
      have hless := (mem_starts.mp hmem).1.2
      omega
  have hcounted : starts w fromMs (b + 1) ⊆
      (goodStarts w ((((starts w fromMs (b + 1)).toList).map readingAt).map sampleOf) fromMs toMs 1).toFinset := by
    intro x hx
    obtain ⟨⟨hx₁, hx₂⟩, hx₃⟩ := mem_starts.mp hx
    obtain ⟨htime, hsensor, hquality⟩ := sample_readingAt x
    refine List.mem_toFinset.mpr (mem_goodStarts.mpr
      ⟨⟨hx₁, by omega⟩, sampleOf (readingAt x), ?_, hsensor, hquality, ?_⟩)
    · exact List.mem_map_of_mem (List.mem_map_of_mem (Finset.mem_toList.mpr hx))
    · rw [htime, hx₃]
  have hless := Finset.card_lt_card hmore
  have hle := Finset.card_le_card hcounted
  rw [List.toFinset_card_of_nodup nodup_goodStarts, ← goodBuckets_eq_length] at hle
  rw [expectedUpToNow_eq_card]
  exact_mod_cast hless.trans_le hle

/-- **Coverage** never exceeds one exactly if no bucket of the window begins within the skew from now on. -/
theorem covered_iff (cfg : PipelineConfig) (w : Width) (fromMs toMs now : ℤ) : Covered cfg w fromMs toMs now ↔
    ¬ ∃ b, (fromMs ≤ b ∧ b < toMs) ∧ timeBucket w b = b ∧ now ≤ b ∧ b ≤ now + cfg.maxClockSkewMs := by
  constructor
  · rintro hcovered ⟨b, hwindow, hself, hlate, hskew⟩
    have hb : b ∈ starts w fromMs toMs := mem_starts.mpr ⟨hwindow, hself⟩
    have hstored : Stored cfg now ((starts w fromMs (b + 1)).toList.map readingAt) := by
      refine stored_readingAt cfg fun t ht => ?_
      have hless := (mem_starts.mp (Finset.mem_toList.mp ht)).1.2
      omega
    exact absurd (hcovered.coverage ownSensors _ hstored 1) (not_le.mpr (expected_lt hb hlate))
  · intro hnone
    refine covered_of_none fun b hb hlate => ?_
    obtain ⟨hwindow, hself⟩ := mem_starts.mp hb
    by_contra hskew
    exact hnone ⟨b, hwindow, hself, hlate, not_lt.mp hskew⟩

/-- Ten minutes that are read a millisecond before the second bucket begins: a device a millisecond ahead has reported
in both, and one is expected.  The coverage is 200 %. -/
theorem ahead_of_the_clock :
    (goodBuckets .fiveMinutes ([readingAt 0, readingAt 300000].map sampleOf) 0 600000 1 = 2 ∧
      expectedUpToNow 0 600000 Width.fiveMinutes.seconds 299999 = 1 ∧ coveragePct 2 1 = some 200) ∧
    ¬ Covered roomyPipeline .fiveMinutes 0 600000 299999 := by
  have hfigures : goodBuckets .fiveMinutes ([readingAt 0, readingAt 300000].map sampleOf) 0 600000 1 = 2 ∧
      expectedUpToNow 0 600000 Width.fiveMinutes.seconds 299999 = 1 ∧ coveragePct 2 1 = some 200 := by
    decide +kernel
  refine ⟨hfigures, fun hcovered => ?_⟩
  have hstored : Stored roomyPipeline 299999 ([0, 300000].map readingAt) := by
    refine stored_readingAt roomyPipeline fun t ht => ?_
    rw [List.mem_cons, List.mem_singleton] at ht
    show t ≤ 299999 + 60000
    omega
  have hle := hcovered.coverage ownSensors _ hstored 1
  rw [List.map_cons, List.map_singleton, hfigures.1, hfigures.2.1] at hle
  exact absurd hle (by decide)

end DTwin.Db.Coverage
