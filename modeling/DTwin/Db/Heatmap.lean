import DTwin.Db.Tables
import Mathlib.Tactic.FieldSimp
import Mathlib.Tactic.LinearCombination

/-!
# DTwin.Db.Heatmap — the mean of a zone over a window

`getZoneHeatmap` of `packages/db/src/queries/telemetry.ts` over the hourly rollup of `016_rollups_exclude_flagged.sql`.
Numbers are exact, times are in milliseconds, and the tables are those that the tenant sees.

The hours are weighted by all their samples, while their means are those of the good ones.  So a flagged sample counts
as if it had read the mean of its hour, and as 0 in an hour with none that is good (`zoneValue_eq`).
-/

namespace DTwin.Db.Heatmap

open Series Tables

variable {ι : Type} [DecidableEq ι]

/-! ## The tables -/

/-- The tables of the query. -/
structure Database (ι : Type) extends Measured ι where
  floors : List (Floor ι String)
  zones : List (Zone ι String)

/-- A row of `telemetry_1h`, without the columns that the query does not read. -/
structure HourRow where
  bucket : ℤ
  avgValue : Option ℚ
  sampleCount : ℚ

/-- The rows of the rollup for a sensor. -/
def telemetry1h (telemetry : List (Sample ι)) (sensorId : ι) : List HourRow :=
  (groups (fun r => hourOf r.time) (telemetry.filter fun r => r.sensorId = sensorId)).map fun g =>
    ⟨g.1, sqlAvg ((good g.2).map Sample.value), g.2.length⟩

/-! ## The query -/

/-- The sensors of a zone that are read. -/
def Database.read (db : Database ι) (metric : MetricType) (zoneId : ι) : List (Sensor ι) :=
  db.sensors.filter fun s => s.zoneId = some zoneId ∧ s.metric = metric ∧ s.isActive

def Database.hours (db : Database ι) (fromMs toMs : ℤ) (s : Sensor ι) : List HourRow :=
  (telemetry1h db.telemetry s.id).filter fun a => fromMs ≤ a.bucket ∧ a.bucket < toMs

/-- The rows of a zone in the join. -/
def Database.joined (db : Database ι) (metric : MetricType) (fromMs toMs : ℤ) (zoneId : ι) : List (Option HourRow) :=
  (leftJoin (db.read metric zoneId)).flatMap fun s => s.elim [none] fun s => leftJoin (db.hours fromMs toMs s)

/-- `CASE WHEN sum(a.sample_count) > 0 THEN sum(a.avg_value * a.sample_count) / sum(a.sample_count) END`. -/
def weighted (rows : List (Option HourRow)) : Option ℚ :=
  match sqlSum (rows.map fun a => a.map HourRow.sampleCount) with
  | none => none
  | some count =>
    if 0 < count then
      (sqlSum (rows.map fun a => a.bind fun a => a.avgValue.map (· * a.sampleCount))).map (· / count)
    else none

structure ZoneValue (ι : Type) where
  zoneId : ι
  zoneName : String
  value : Option ℚ

/-- The zones of the floors of a building. -/
def Database.zonesOf (db : Database ι) (buildingId : ι) : List (Zone ι String) :=
  db.zones.filter fun z => db.floors.any fun f => f.id = z.floorId ∧ f.buildingId = buildingId

/-- `getZoneHeatmap`, without the order of its rows. -/
def getZoneHeatmap (db : Database ι) (buildingId : ι) (metric : MetricType) (fromMs toMs : ℤ) : List (ZoneValue ι) :=
  (db.zonesOf buildingId).map fun z => ⟨z.id, z.name, weighted (db.joined metric fromMs toMs z.id)⟩

/-! ## What should be averaged, and what is -/

/-- The good samples of the window, of all sensors of the zone for the metric. -/
def Database.wanted (db : Database ι) (metric : MetricType) (fromMs toMs : ℤ) (zoneId : ι) : List (Sample ι) :=
  good (db.telemetry.filter fun r => fromMs ≤ r.time ∧ r.time < toMs ∧
    db.sensors.any fun s => s.id = r.sensorId ∧ s.zoneId = some zoneId ∧ s.metric = metric)

/-- The arithmetic mean. -/
def mean (samples : List (Sample ι)) : ℚ := (samples.map Sample.value).sum / samples.length

/-- The samples of the hours that start in the window, of the sensors that are read. -/
def Database.counted (db : Database ι) (metric : MetricType) (fromMs toMs : ℤ) (zoneId : ι) : List (Sample ι) :=
  db.telemetry.filter fun r => (fromMs ≤ hourOf r.time ∧ hourOf r.time < toMs) ∧
    r.sensorId ∈ (db.read metric zoneId).map Sensor.id

/-- What a sample counts as by its hour: the mean of the good samples of its sensor and hour, 0 if there are none. -/
def Database.standIn (db : Database ι) (r : Sample ι) : ℚ :=
  mean (good (db.telemetry.filter fun r' => r'.sensorId = r.sensorId ∧ hourOf r'.time = hourOf r.time))

/-- The samples that are averaged and those that should be have one mean: there are none of either, or some of both,
and from the mean that there should be, the good samples that are read and what the flagged ones count as deviate by 0
in sum. -/
def Exact (db : Database ι) (metric : MetricType) (fromMs toMs : ℤ) (zoneId : ι) : Prop :=
  db.wanted metric fromMs toMs zoneId = [] ∧ good (db.counted metric fromMs toMs zoneId) = [] ∨
  db.wanted metric fromMs toMs zoneId ≠ [] ∧ good (db.counted metric fromMs toMs zoneId) ≠ [] ∧
    ((good (db.counted metric fromMs toMs zoneId)).map fun r =>
        r.value - mean (db.wanted metric fromMs toMs zoneId)).sum +
      ((flagged (db.counted metric fromMs toMs zoneId)).map fun r =>
        db.standIn r - mean (db.wanted metric fromMs toMs zoneId)).sum = 0

/-! ## Rows and samples -/

variable {db : Database ι} {metric : MetricType} {fromMs toMs : ℤ} {zoneId : ι}

/-- The rows of a zone, without those of nulls. -/
theorem reduceOption_joined : (db.joined metric fromMs toMs zoneId).reduceOption =
    (db.read metric zoneId).flatMap (db.hours fromMs toMs) :=
  reduceOption_elim_leftJoin (db.hours fromMs toMs) (db.read metric zoneId)

/-- The samples of a sensor. -/
def Database.samples (db : Database ι) (sensorId : ι) : List (Sample ι) :=
  db.telemetry.filter fun r => r.sensorId = sensorId

/-- The row of a group. -/
def hourRow (g : ℤ × List (Sample ι)) : HourRow := ⟨g.1, sqlAvg ((good g.2).map Sample.value), g.2.length⟩

theorem hours_eq (db : Database ι) (fromMs toMs : ℤ) (s : Sensor ι) : db.hours fromMs toMs s =
    ((groups (fun r => hourOf r.time) (db.samples s.id)).filter fun g => fromMs ≤ g.1 ∧ g.1 < toMs).map hourRow := by
  unfold Database.hours telemetry1h
  rw [List.filter_map]
  rfl

theorem nodup_read (db : Database ι) (metric : MetricType) (zoneId : ι) :
    ((db.read metric zoneId).map Sensor.id).Nodup :=
  db.sensorIds.sublist (List.filter_sublist.map _)

/-- **What is summed over the rows** is summed over the samples. -/
theorem sum_hours (db : Database ι) (metric : MetricType) (fromMs toMs : ℤ) (zoneId : ι) {φ : HourRow → ℚ}
    {f : Sample ι → ℚ}
    (hφ : ∀ s : Sensor ι, ∀ g ∈ groups (fun r => hourOf r.time) (db.samples s.id), φ (hourRow g) = (g.2.map f).sum) :
    (((db.read metric zoneId).flatMap (db.hours fromMs toMs)).map φ).sum =
      ((db.counted metric fromMs toMs zoneId).map f).sum := by
  have hsensor : ∀ s : Sensor ι, ((db.hours fromMs toMs s).map φ).sum =
      (((db.telemetry.filter fun r => fromMs ≤ hourOf r.time ∧ hourOf r.time < toMs).filter
        fun r => r.sensorId = s.id).map f).sum := by
    intro s
    have hgroups := sum_groups_filter (fun r : Sample ι => hourOf r.time) f
      (fun hour => decide (fromMs ≤ hour ∧ hour < toMs)) (db.samples s.id)
    have hcongr : (((groups (fun r => hourOf r.time) (db.samples s.id)).filter fun g => fromMs ≤ g.1 ∧ g.1 < toMs).map
        fun g => φ (hourRow g)) =
        ((groups (fun r => hourOf r.time) (db.samples s.id)).filter fun g => fromMs ≤ g.1 ∧ g.1 < toMs).map
          fun g => (g.2.map f).sum :=
      List.map_congr_left fun g hg => hφ s g (List.mem_of_mem_filter hg)
    rw [hours_eq, List.map_map]
    show ((List.filter _ _).map fun g => φ (hourRow g)).sum = _
    rw [hcongr, hgroups, Database.samples, List.filter_comm]
  have hkeys := sum_filter_key (nodup_read db metric zoneId) Sample.sensorId f
    (db.telemetry.filter fun r => fromMs ≤ hourOf r.time ∧ hourOf r.time < toMs)
  rw [List.map_flatMap, List.flatMap_def, List.sum_flatten, List.map_map]
  rw [List.map_map] at hkeys
  have hsensors : (db.read metric zoneId).map (List.sum ∘ fun s => (db.hours fromMs toMs s).map φ) = _ :=
    List.map_congr_left fun s _ => hsensor s
  rw [hsensors]
  refine hkeys.trans ?_
  rw [Database.counted, List.filter_filter]
  congr 2
  refine List.filter_congr fun r _ => ?_
  simp [Bool.and_comm]

theorem eq_of_mem_groups {s : Sensor ι} {g : ℤ × List (Sample ι)}
    (hg : g ∈ groups (fun r => hourOf r.time) (db.samples s.id)) :
    g.2 = db.telemetry.filter fun r => r.sensorId = s.id ∧ hourOf r.time = g.1 := by
  obtain ⟨hour, -, rfl⟩ := List.mem_map.mp hg
  rw [Database.samples, List.filter_filter]
  refine List.filter_congr fun r _ => ?_
  simp [Bool.and_comm]

/-- What an hour is weighted with is what its samples count as. -/
theorem weight_group (s : Sensor ι) {g : ℤ × List (Sample ι)}
    (hg : g ∈ groups (fun r => hourOf r.time) (db.samples s.id)) :
    ((hourRow g).avgValue.map (· * (hourRow g).sampleCount)).getD 0 =
      (g.2.map fun r => if r.quality = 0 then r.value else db.standIn r).sum := by
  have hgroup := eq_of_mem_groups hg
  have hstand : ∀ r ∈ flagged g.2, db.standIn r = mean (good g.2) := by
    intro r hr
    have hmem : r ∈ db.telemetry.filter fun r => r.sensorId = s.id ∧ hourOf r.time = g.1 :=
      hgroup ▸ List.mem_of_mem_filter hr
    obtain ⟨hsensor, hhour⟩ : r.sensorId = s.id ∧ hourOf r.time = g.1 := by simpa using (List.mem_filter.mp hmem).2
    rw [Database.standIn, hsensor, hhour, ← hgroup]
  have hcount := length_good_flagged g.2
  rw [sum_good_flagged, List.map_congr_left hstand, List.map_const', List.sum_replicate, nsmul_eq_mul]
  by_cases hnone : good g.2 = []
  · have havg : (hourRow g).avgValue = none := by
      rw [hourRow, hnone]
      rfl
    rw [havg, hnone]
    simp [mean]
  · have havg : (hourRow g).avgValue = some (mean (good g.2)) := by
      rw [hourRow, sqlAvg, if_neg (by simpa using hnone), List.length_map]
      rfl
    have hlength : ((good g.2).length : ℚ) ≠ 0 := by
      simpa using hnone
    have hsum : ((good g.2).map Sample.value).sum = mean (good g.2) * (good g.2).length := by
      rw [mean, div_mul_cancel₀ _ hlength]
    rw [havg, hsum, Option.map_some, Option.getD_some]
    show mean (good g.2) * (g.2.length : ℚ) = _
    rw [← hcount]
    ring

/-- All hours are without a mean exactly if no good sample is read. -/
theorem avg_none_iff : (∀ a ∈ (db.read metric zoneId).flatMap (db.hours fromMs toMs), a.avgValue = none) ↔
    good (db.counted metric fromMs toMs zoneId) = [] := by
  have hnone : ∀ g : ℤ × List (Sample ι), (hourRow g).avgValue = none ↔ good g.2 = [] := by
    intro g
    unfold hourRow sqlAvg
    by_cases hg : good g.2 = []
    · simp [hg]
    · simp [hg]
  have hmem : ∀ r, r ∈ good (db.counted metric fromMs toMs zoneId) ↔ r ∈ db.telemetry ∧
      (fromMs ≤ hourOf r.time ∧ hourOf r.time < toMs) ∧ (∃ s ∈ db.read metric zoneId, s.id = r.sensorId) ∧
        r.quality = 0 := by
    intro r
    simp only [good, Database.counted, List.mem_filter, decide_eq_true_eq, List.mem_map]
    tauto
  constructor
  · intro hall
    refine List.eq_nil_iff_forall_not_mem.mpr fun r hr => ?_
    obtain ⟨htelemetry, hwindow, ⟨s, hs, hid⟩, hquality⟩ := (hmem r).mp hr
    have hsample : r ∈ db.samples s.id := List.mem_filter.mpr ⟨htelemetry, by simp [hid]⟩
    have hgroup : (hourOf r.time, (db.samples s.id).filter fun r' => hourOf r'.time = hourOf r.time) ∈
        groups (fun r => hourOf r.time) (db.samples s.id) := by
      refine List.mem_map.mpr ⟨hourOf r.time, ?_, rfl⟩
      rw [List.mem_insertionSort, List.mem_dedup]
      exact List.mem_map.mpr ⟨r, hsample, rfl⟩
    have hrow := hall (hourRow _) (List.mem_flatMap.mpr ⟨s, hs, by
      rw [hours_eq]
      exact List.mem_map_of_mem (List.mem_filter.mpr ⟨hgroup, by simpa using hwindow⟩)⟩)
    have hempty := (hnone _).mp hrow
    have hin : r ∈ good ((db.samples s.id).filter fun r' => hourOf r'.time = hourOf r.time) :=
      List.mem_filter.mpr ⟨List.mem_filter.mpr ⟨hsample, by simp⟩, by simp [hquality]⟩
    dsimp only at hempty
    rw [hempty] at hin
    cases hin
  · intro hgood a ha
    obtain ⟨s, hs, hrow⟩ := List.mem_flatMap.mp ha
    rw [hours_eq] at hrow
    obtain ⟨g, hg, rfl⟩ := List.mem_map.mp hrow
    obtain ⟨hgroup, hwindow⟩ := List.mem_filter.mp hg
    rw [hnone]
    refine List.eq_nil_iff_forall_not_mem.mpr fun r hr => ?_
    obtain ⟨hing, hquality⟩ := List.mem_filter.mp hr
    rw [eq_of_mem_groups hgroup] at hing
    obtain ⟨htelemetry, hkeys⟩ := List.mem_filter.mp hing
    obtain ⟨hsensor, hhour⟩ : r.sensorId = s.id ∧ hourOf r.time = g.1 := by simpa using hkeys
    have hcounted : r ∈ good (db.counted metric fromMs toMs zoneId) :=
      (hmem r).mpr ⟨htelemetry, by simpa [hhour] using hwindow, ⟨s, hs, hsensor.symm⟩, by simpa using hquality⟩
    rw [hgood] at hcounted
    cases hcounted

/-- **The value of a zone**: the sum of the good samples that are read and of what the flagged ones count as, over the
number of both; none if none is good. -/
theorem zoneValue_eq : weighted (db.joined metric fromMs toMs zoneId) =
    if good (db.counted metric fromMs toMs zoneId) = [] then none
    else some ((((good (db.counted metric fromMs toMs zoneId)).map Sample.value).sum +
      ((flagged (db.counted metric fromMs toMs zoneId)).map db.standIn).sum) /
        (db.counted metric fromMs toMs zoneId).length) := by
  have hcount : (((db.read metric zoneId).flatMap (db.hours fromMs toMs)).map HourRow.sampleCount).sum =
      (db.counted metric fromMs toMs zoneId).length := by
    have hrow : ∀ s : Sensor ι, ∀ g ∈ groups (fun r => hourOf r.time) (db.samples s.id),
        (hourRow g).sampleCount = (g.2.map fun _ => (1 : ℚ)).sum := fun s g _ => by simp [hourRow]
    have hones := sum_hours db metric fromMs toMs zoneId hrow
    simpa using hones
  have hweight := sum_hours db metric fromMs toMs zoneId
    (φ := fun a => (a.avgValue.map (· * a.sampleCount)).getD 0) fun s g hg => weight_group s hg
  rw [sum_good_flagged, ← sum_filterMap] at hweight
  have hempty : ((db.read metric zoneId).flatMap (db.hours fromMs toMs)).filterMap
      (fun a => a.avgValue.map (· * a.sampleCount)) = [] ↔ good (db.counted metric fromMs toMs zoneId) = [] := by
    rw [← avg_none_iff, List.filterMap_eq_nil_iff]
    simp
  unfold weighted sqlSum
  rw [List.reduceOption_map, reduceOption_bind, reduceOption_joined, hcount, hweight]
  by_cases hgood : good (db.counted metric fromMs toMs zoneId) = []
  · rw [if_pos hgood, if_pos (hempty.mpr hgood)]
    by_cases hrows : ((db.read metric zoneId).flatMap (db.hours fromMs toMs)).map HourRow.sampleCount = []
    · rw [if_pos hrows]
    · rw [if_neg hrows]
      exact ite_self none
  · have hrows : ((db.read metric zoneId).flatMap (db.hours fromMs toMs)).map HourRow.sampleCount ≠ [] := by
      intro hnil
      refine hgood (hempty.mp ?_)
      rw [List.map_eq_nil_iff.mp hnil]
      rfl
    have hpos : 0 < ((db.counted metric fromMs toMs zoneId).length : ℚ) := by
      have hne : db.counted metric fromMs toMs zoneId ≠ [] := by
        intro hnil
        rw [hnil] at hgood
        exact hgood rfl
      exact_mod_cast List.length_pos_iff.mpr hne
    rw [if_neg hgood, if_neg hrows]
    dsimp only
    rw [if_pos hpos, if_neg fun hnil => hgood (hempty.mp hnil)]
    rfl

/-! ## Is it the mean? -/

omit [DecidableEq ι] in
theorem sum_deviations (l : List (Sample ι)) (f : Sample ι → ℚ) (m : ℚ) :
    (l.map fun r => f r - m).sum = (l.map f).sum - l.length * m := by
  induction l with
  | nil => simp
  | cons r l ih =>
    rw [List.map_cons, List.sum_cons, ih, List.map_cons, List.sum_cons, List.length_cons]
    push_cast
    ring

theorem value_iff : weighted (db.joined metric fromMs toMs zoneId) =
    sqlAvg ((db.wanted metric fromMs toMs zoneId).map Sample.value) ↔ Exact db metric fromMs toMs zoneId := by
  have hmean : db.wanted metric fromMs toMs zoneId ≠ [] →
      sqlAvg ((db.wanted metric fromMs toMs zoneId).map Sample.value) =
        some (mean (db.wanted metric fromMs toMs zoneId)) := by
    intro hne
    rw [sqlAvg, if_neg (by simpa using hne), List.length_map]
    rfl
  rw [zoneValue_eq]
  unfold Exact
  by_cases hwanted : db.wanted metric fromMs toMs zoneId = []
  · by_cases hgood : good (db.counted metric fromMs toMs zoneId) = []
    · simp [hwanted, hgood, sqlAvg]
    · simp [hwanted, hgood, sqlAvg]
  · by_cases hgood : good (db.counted metric fromMs toMs zoneId) = []
    · rw [hmean hwanted]
      simp [hwanted, hgood]
    · have hlength := length_good_flagged (db.counted metric fromMs toMs zoneId)
      have hpos : ((db.counted metric fromMs toMs zoneId).length : ℚ) ≠ 0 := by
        have hne : db.counted metric fromMs toMs zoneId ≠ [] := by
          intro hnil
          rw [hnil] at hgood
          exact hgood rfl
        simpa using hne
      rw [if_neg hgood, hmean hwanted, Option.some.injEq, div_eq_iff hpos, sum_deviations, sum_deviations, ← hlength]
      constructor
      · intro heq
        refine Or.inr ⟨hwanted, hgood, ?_⟩
        linear_combination heq
      · rintro (⟨hnil, -⟩ | ⟨-, -, hzero⟩)
        · exact absurd hnil hwanted
        · linear_combination hzero

/-- A window of whole hours, over sensors that are all active and of which no sample is flagged, is averaged right. -/
theorem exact_of_unflagged (hfrom : fromMs % HOUR_MS = 0) (hto : toMs % HOUR_MS = 0)
    (hactive : ∀ s ∈ db.sensors, s.zoneId = some zoneId → s.metric = metric → s.isActive = true)
    (hflagged : flagged (db.counted metric fromMs toMs zoneId) = []) : Exact db metric fromMs toMs zoneId := by
  have hhour : ∀ t : ℤ, (fromMs ≤ hourOf t ∧ hourOf t < toMs) ↔ (fromMs ≤ t ∧ t < toMs) := by
    intro t
    unfold hourOf HOUR_MS at *
    omega
  have hsame : db.wanted metric fromMs toMs zoneId = good (db.counted metric fromMs toMs zoneId) := by
    unfold Database.wanted Database.counted
    congr 1
    refine List.filter_congr fun r _ => ?_
    rw [Bool.eq_iff_iff, decide_eq_true_iff, decide_eq_true_iff, hhour, List.any_eq_true]
    simp only [Database.read, List.mem_map, List.mem_filter, decide_eq_true_iff, and_assoc]
    constructor
    · rintro ⟨hlow, hhigh, s, hs, hid, hzone, hmetric⟩
      exact ⟨hlow, hhigh, s, hs, hzone, hmetric, hactive s hs hzone hmetric, hid⟩
    · rintro ⟨hlow, hhigh, s, hs, hzone, hmetric, -, hid⟩
      exact ⟨hlow, hhigh, s, hs, hid, hzone, hmetric⟩
  unfold Exact
  rw [hflagged, ← hsame, sum_deviations]
  by_cases hwanted : db.wanted metric fromMs toMs zoneId = []
  · exact Or.inl ⟨hwanted, hwanted⟩
  · have hlength : ((db.wanted metric fromMs toMs zoneId).length : ℚ) ≠ 0 := by simpa using hwanted
    refine Or.inr ⟨hwanted, hwanted, ?_⟩
    rw [mean, mul_div_cancel₀ _ hlength]
    simp

/-- **The value of a zone is the mean of its good samples** in the window, and none if there are none, exactly if the
good samples that are read and what the flagged ones count as deviate from that mean by 0 in sum; so it is over whole
hours, active sensors and no flagged samples. -/
theorem heatmap_iff (db : Database ι) (buildingId : ι) (metric : MetricType) (fromMs toMs : ℤ) (z : Zone ι String)
    (hz : z ∈ db.zonesOf buildingId) :
    ((∃ row ∈ getZoneHeatmap db buildingId metric fromMs toMs, row.zoneId = z.id ∧
      row.value = sqlAvg ((db.wanted metric fromMs toMs z.id).map Sample.value)) ↔
    Exact db metric fromMs toMs z.id) ∧
    (fromMs % HOUR_MS = 0 → toMs % HOUR_MS = 0 →
      (∀ s ∈ db.sensors, s.zoneId = some z.id → s.metric = metric → s.isActive = true) →
      flagged (db.counted metric fromMs toMs z.id) = [] → Exact db metric fromMs toMs z.id) := by
  refine ⟨?_, exact_of_unflagged⟩
  rw [← value_iff]
  constructor
  · rintro ⟨row, hrow, hid, hvalue⟩
    obtain ⟨z', -, rfl⟩ := List.mem_map.mp hrow
    rw [← hvalue, ← hid]
  · intro hvalue
    exact ⟨_, List.mem_map_of_mem hz, rfl, hvalue⟩

/-- A lobby with one sensor: a good sample, and a flagged one in the same hour. -/
def lobby : Database ℕ where
  floors := [⟨1, 7, 0, "ground"⟩]
  zones := [⟨10, 1, "lobby", none, none⟩]
  sensors := [⟨100, none, some 10, .temperatureC, true⟩]
  telemetry := [⟨0, 100, 20, 0⟩, ⟨60000, 100, 85, 1⟩]
  sensorIds := by decide

/-- The flagged sample counts as the good one of its hour. -/
theorem heatmap_iff_lobby : ∃ row ∈ getZoneHeatmap lobby 7 .temperatureC 0 3600000, row.zoneId = 10 ∧
    row.value = sqlAvg ((lobby.wanted .temperatureC 0 3600000 10).map Sample.value) :=
  (heatmap_iff lobby 7 .temperatureC 0 3600000 ⟨10, 1, "lobby", none, none⟩ (List.mem_cons_self)).1.mpr
    (Or.inr ⟨by decide +kernel, by decide +kernel, by decide +kernel⟩)

/-- An office with one sensor: a good sample in the first hour, and a flagged one in the second. -/
def office : Database ℕ where
  floors := [⟨1, 7, 0, "ground"⟩]
  zones := [⟨10, 1, "office", none, none⟩]
  sensors := [⟨100, none, some 10, .temperatureC, true⟩]
  telemetry := [⟨0, 100, 20, 0⟩, ⟨3600000, 100, 85, 1⟩]
  sensorIds := by decide

/-- **An hour without a good sample halves the mean**: over both hours the value is 10, and the one good sample is 20.
-/
theorem halved : ¬ ∃ row ∈ getZoneHeatmap office 7 .temperatureC 0 7200000, row.zoneId = 10 ∧
    row.value = sqlAvg ((office.wanted .temperatureC 0 7200000 10).map Sample.value) := by
  decide +kernel

end DTwin.Db.Heatmap
