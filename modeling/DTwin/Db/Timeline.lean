import DTwin.Db.Tables
import DTwin.Lib.Buckets
import DTwin.Lib.OrderedMap
import Mathlib.Tactic.NormNum

/-!
# DTwin.Db.Timeline — the gaps and the flags of a zone

`copilotZoneTimeline` of `packages/db/src/queries/copilot.ts`, with the events of other tables as they come and without
the rules in scope.  Instants are in microseconds.

A gap lies between two buckets of the temperature feed that are neighbours, or between one and the edges of the window;
an episode is a group of the flagged buckets of a point by the bucket less its row number.  The first are the maximal
runs of three or more buckets without a temperature sample, of a zone that has a feed; the second are the maximal runs
of flagged buckets of each point (`timeline_exact`).
-/

namespace DTwin.Db.Timeline

open OrderedMap Series Tables Buckets

/-! ## The tables -/

def MINUTE_US : ℤ := 60000000

/-- `INTERVAL '5 minutes'`. -/
def FIVE_MINUTES_US : ℤ := 300000000

/-- 2000-01-03T00:00Z. -/
def ORIGIN_US : ℤ := 946857600000000

/-- `time_bucket(INTERVAL '5 minutes', t)`. -/
def timeBucket (t : ℤ) : ℤ := bucketAt ORIGIN_US FIVE_MINUTES_US t

/-- A row of `telemetry_5m_t`, without the columns that the query does not read. -/
structure FiveMinutes (ι : Type) where
  sensorId : ι
  bucket : ℤ
  badQualityCount : ℕ

/-- The tables.  The rollup is grouped by sensor and bucket. -/
structure Database (ι : Type) extends Sensors ι where
  telemetry : List (FiveMinutes ι)
  grouped : (telemetry.map fun a => (a.sensorId, a.bucket)).Nodup
  aligned : ∀ a ∈ telemetry, timeBucket a.bucket = a.bucket

/-! ## The query -/

inductive TimelineKind
  | alertOpened | alertResolved | commandRequested | commandApplied | overrideLapsed | commandFailed | commandExpired
  | commandCancelled | commandSuperseded | maintenance | flagEpisode | dataGap
deriving DecidableEq

def TimelineKind.text : TimelineKind → String
  | alertOpened => "alert_opened"
  | alertResolved => "alert_resolved"
  | commandRequested => "command_requested"
  | commandApplied => "command_applied"
  | overrideLapsed => "override_lapsed"
  | commandFailed => "command_failed"
  | commandExpired => "command_expired"
  | commandCancelled => "command_cancelled"
  | commandSuperseded => "command_superseded"
  | maintenance => "maintenance"
  | flagEpisode => "flag_episode"
  | dataGap => "data_gap"

/-- The detail of an event; those of other tables are not looked into. -/
inductive Detail (δ : Type)
  | flagEpisode (metric : MetricType) (flaggedSamplesCount : ℕ) (durationMin untilUs : ℤ)
  | dataGap (metric : MetricType) (durationMin untilUs : ℤ)
  | other (detail : δ)

structure TimelineRow (δ : Type) where
  time : ℤ
  kind : TimelineKind
  detail : Detail δ

/-- An event of another table. -/
structure OtherEvent (δ : Type) where
  time : ℤ
  kind : TimelineKind
  detail : δ
  not_flagEpisode : kind ≠ .flagEpisode
  not_dataGap : kind ≠ .dataGap

structure Query (ι : Type) where
  zoneId : ι
  fromUs : ℤ
  toUs : ℤ
  limit : ℕ

structure ZoneTimelineRows (δ : Type) where
  items : List (TimelineRow δ)
  total : ℕ
  limit : ℕ
  truncated : Bool

section Query

variable {ι δ : Type} [DecidableEq ι] (db : Database ι) (q : Query ι)

def Query.zs : List (Sensor ι) := db.sensors.filter fun s => s.zoneId = some q.zoneId ∧ s.isActive

/-- The buckets of a point that start in the window. -/
def Query.buckets (s : Sensor ι) : List (FiveMinutes ι) :=
  db.telemetry.filter fun a => a.sensorId = s.id ∧ q.fromUs ≤ a.bucket ∧ a.bucket < q.toUs

def Query.ztBuckets : List ℤ :=
  ((q.zs db).filter fun s => s.metric = .temperatureC).flatMap fun s => (q.buckets db s).map FiveMinutes.bucket

/-- `WHERE EXISTS (SELECT 1 FROM zs WHERE metric = 'temperature_c')`. -/
def Query.hasFeed : Bool := (q.zs db).any fun s => s.metric = .temperatureC

/-- The buckets of the feed, and a virtual one at each end of the window. -/
def Query.edges (now : ℤ) : List ℤ :=
  q.ztBuckets db ++
    (if q.hasFeed db then [timeBucket (q.fromUs + FIVE_MINUTES_US - 1) - FIVE_MINUTES_US] else []) ++
    if q.hasFeed db then [timeBucket (min q.toUs now - 1) + FIVE_MINUTES_US] else []

/-- A gap from behind a bucket to the next one. -/
def dataGap (e : ℤ × ℤ) : TimelineRow δ where
  time := e.1 + FIVE_MINUTES_US
  kind := .dataGap
  detail := .dataGap .temperatureC ((e.2 - e.1) / MINUTE_US - 5) e.2

/-- `bucket - prev > INTERVAL '15 minutes'`. -/
def isGap (prev bucket : ℤ) : Bool := 15 * MINUTE_US < bucket - prev

def Query.dataGaps (now : ℤ) : List (TimelineRow δ) :=
  (jumps isGap none ((q.edges db now).insertionSort (· ≤ ·))).map dataGap

/-- A row of `f`: a flagged bucket of a point, and the bucket less the row number. -/
structure Flag (ι : Type) where
  sensor : Sensor ι
  row : FiveMinutes ι
  grp : ℤ

/-- The flagged buckets of a point. -/
def Query.flagged (s : Sensor ι) : List (FiveMinutes ι) := (q.buckets db s).filter fun a => 0 < a.badQualityCount

/-- `row_number() OVER (PARTITION BY zs.id ORDER BY a.bucket)`, for a point. -/
def Query.flagsOf (s : Sensor ι) : List (Flag ι) :=
  (((q.flagged db s).insertionSort fun a b => a.bucket ≤ b.bucket).zipIdx 1).map fun (a, n) =>
    ⟨s, a, a.bucket - n * FIVE_MINUTES_US⟩

def Query.flags : List (Flag ι) := (q.zs db).flatMap (q.flagsOf db)

/-- The event of a group, which is not empty. -/
def flagEpisode (metric : MetricType) (rows : List (FiveMinutes ι)) : TimelineRow δ where
  time := (rows.map FiveMinutes.bucket).min?.getD 0
  kind := .flagEpisode
  detail := .flagEpisode metric (rows.map FiveMinutes.badQualityCount).sum (5 * rows.length)
    ((rows.map FiveMinutes.bucket).max?.getD 0 + FIVE_MINUTES_US)

def Query.flagEpisodes : List (TimelineRow δ) :=
  (groupBy (fun f => (f.sensor.id, f.sensor.metric, f.grp)) (q.flags db)).entries.map fun g =>
    flagEpisode g.1.2.1 (g.2.map Flag.row)

/-- `ev`. -/
def Query.ev (now : ℤ) (others : List (OtherEvent δ)) : List (TimelineRow δ) :=
  (others.map fun e => ⟨e.time, e.kind, .other e.detail⟩) ++ q.flagEpisodes db ++ q.dataGaps db now

/-- `ORDER BY at DESC, kind`; `le` is the order of the texts. -/
def newerFirst (le : String → String → Bool) (r r' : TimelineRow δ) : Bool :=
  r'.time < r.time || r.time = r'.time && le r.kind.text r'.kind.text

def copilotZoneTimeline (le : String → String → Bool) (now : ℤ) (others : List (OtherEvent δ)) : ZoneTimelineRows δ :=
  let rows := ((q.ev db now others).insertionSort fun r r' => newerFirst le r r').take q.limit
  { items := rows.reverse
    total := if rows = [] then 0 else (q.ev db now others).length
    limit := q.limit
    truncated := rows.length < if rows = [] then 0 else (q.ev db now others).length }

end Query

/-! ## What the events should be -/

section Exact

variable {ι δ : Type} [DecidableEq ι] (db : Database ι) (q : Query ι)

/-- A bucket of the window, up to now, in which no temperature sample arrived. -/
def Query.Missing (now b : ℤ) : Prop :=
  timeBucket b = b ∧ (q.fromUs ≤ b ∧ b < min q.toUs now) ∧
    ∀ s ∈ q.zs db, s.metric = .temperatureC → ∀ a ∈ db.telemetry, a.sensorId = s.id → a.bucket ≠ b

/-- A bucket of the window that holds flagged samples of a point. -/
def Query.Flagged (s : Sensor ι) (b : ℤ) : Prop :=
  (q.fromUs ≤ b ∧ b < q.toUs) ∧ ∃ a ∈ db.telemetry, a.sensorId = s.id ∧ a.bucket = b ∧ 0 < a.badQualityCount

/-- The flagged samples of a point in a bucket. -/
def Database.flaggedAt (db : Database ι) (s : Sensor ι) (b : ℤ) : ℕ :=
  ((db.telemetry.filter fun a => (a.sensorId, a.bucket) = (s.id, b)).map FiveMinutes.badQualityCount).sum

def gapOf (run : ℤ × ℕ) : TimelineRow δ where
  time := run.1
  kind := .dataGap
  detail := .dataGap .temperatureC (5 * run.2) (run.1 + run.2 * FIVE_MINUTES_US)

def episodeOf (db : Database ι) (run : Sensor ι × ℤ × ℕ) : TimelineRow δ where
  time := run.2.1
  kind := .flagEpisode
  detail := .flagEpisode run.1.metric
    (((List.range run.2.2).map fun i : ℕ => db.flaggedAt run.1 (run.2.1 + i * FIVE_MINUTES_US)).sum) (5 * run.2.2)
    (run.2.1 + run.2.2 * FIVE_MINUTES_US)

/-- The gaps are the maximal runs of three or more buckets in which nothing arrived. -/
def GapsExact (now : ℤ) (events : List (TimelineRow δ)) : Prop :=
  ∃ runs : List (ℤ × ℕ), runs.Nodup ∧
    (∀ a n, (a, n) ∈ runs ↔ 3 ≤ n ∧ IsRun FIVE_MINUTES_US (q.Missing db now) a n) ∧
    events.filter (fun e => e.kind = .dataGap) = runs.map gapOf

/-- The episodes are the maximal runs of flagged buckets of each point, and a flagged bucket is in one of them. -/
def EpisodesExact (events : List (TimelineRow δ)) : Prop :=
  ∃ runs : List (Sensor ι × ℤ × ℕ), runs.Nodup ∧
    (∀ s a n, (s, a, n) ∈ runs ↔ s ∈ q.zs db ∧ IsRun FIVE_MINUTES_US (q.Flagged db s) a n) ∧
    (∀ s ∈ q.zs db, ∀ b, q.Flagged db s b → ∃! run, run ∈ runs ∧ run.1 = s ∧ InRun FIVE_MINUTES_US run.2.1 run.2.2 b) ∧
    events.filter (fun e => e.kind = .flagEpisode) = runs.map (episodeOf db)

end Exact

/-! ## Buckets -/

theorem width_pos : 0 < FIVE_MINUTES_US := by decide

theorem width_dvd_origin : FIVE_MINUTES_US ∣ ORIGIN_US := ⟨3156192, rfl⟩

theorem timeBucket_eq_self_iff {b : ℤ} : timeBucket b = b ↔ FIVE_MINUTES_US ∣ b :=
  bucketAt_eq_self_iff width_pos width_dvd_origin

section Gaps

variable {ι δ : Type} [DecidableEq ι] {db : Database ι} {q : Query ι} {now : ℤ}

/-- The virtual bucket at the beginning. -/
def Query.firstEdge (q : Query ι) : ℤ := timeBucket (q.fromUs + FIVE_MINUTES_US - 1) - FIVE_MINUTES_US

/-- The virtual bucket at the end. -/
def Query.lastEdge (q : Query ι) (now : ℤ) : ℤ := timeBucket (min q.toUs now - 1) + FIVE_MINUTES_US

omit [DecidableEq ι] in
theorem dvd_firstEdge : FIVE_MINUTES_US ∣ q.firstEdge :=
  dvd_sub_self_right.mpr (dvd_bucketAt width_pos width_dvd_origin _)

omit [DecidableEq ι] in
theorem dvd_lastEdge : FIVE_MINUTES_US ∣ q.lastEdge now :=
  dvd_add_self_right.mpr (dvd_bucketAt width_pos width_dvd_origin _)

omit [DecidableEq ι] in
/-- It is the last bucket before the window. -/
theorem le_firstEdge_iff {b : ℤ} (hb : FIVE_MINUTES_US ∣ b) : b ≤ q.firstEdge ↔ b < q.fromUs := by
  have hle := le_bucketAt_iff (t := q.fromUs + FIVE_MINUTES_US - 1) width_pos width_dvd_origin
    (dvd_add_self_right.mpr hb)
  unfold Query.firstEdge timeBucket
  constructor
  · intro h
    have hless := hle.mp (by linarith)
    omega
  · intro h
    have hmore := hle.mpr (by omega)
    linarith

omit [DecidableEq ι] in
/-- It is the first bucket behind the window. -/
theorem lastEdge_le_iff {b : ℤ} (hb : FIVE_MINUTES_US ∣ b) : q.lastEdge now ≤ b ↔ min q.toUs now ≤ b :=
  bucketAt_pred_add_le_iff width_pos width_dvd_origin hb

theorem mem_ztBuckets {b : ℤ} : b ∈ q.ztBuckets db ↔ (q.fromUs ≤ b ∧ b < q.toUs) ∧
    ∃ s ∈ q.zs db, s.metric = .temperatureC ∧ ∃ a ∈ db.telemetry, a.sensorId = s.id ∧ a.bucket = b := by
  unfold Query.ztBuckets Query.buckets
  constructor
  · intro hb
    obtain ⟨s, hs, hb⟩ := List.mem_flatMap.mp hb
    obtain ⟨a, ha, rfl⟩ := List.mem_map.mp hb
    obtain ⟨hs, hmetric⟩ := List.mem_filter.mp hs
    obtain ⟨ha, hwindow⟩ := List.mem_filter.mp ha
    obtain ⟨hsensor, hfrom, hto⟩ := of_decide_eq_true hwindow
    exact ⟨⟨hfrom, hto⟩, s, hs, of_decide_eq_true hmetric, a, ha, hsensor, rfl⟩
  · rintro ⟨⟨hfrom, hto⟩, s, hs, hmetric, a, ha, hsensor, rfl⟩
    refine List.mem_flatMap.mpr ⟨s, List.mem_filter.mpr ⟨hs, by simpa using hmetric⟩, List.mem_map_of_mem ?_⟩
    exact List.mem_filter.mpr ⟨ha, by simpa using ⟨hsensor, hfrom, hto⟩⟩

theorem dvd_of_mem_ztBuckets {b : ℤ} (hb : b ∈ q.ztBuckets db) : FIVE_MINUTES_US ∣ b := by
  obtain ⟨-, -, -, -, a, ha, -, rfl⟩ := mem_ztBuckets.mp hb
  exact timeBucket_eq_self_iff.mp (db.aligned a ha)

/-- The edges of a feed, in order. -/
def Query.ordered (db : Database ι) (q : Query ι) (now : ℤ) : List ℤ := (q.edges db now).insertionSort (· ≤ ·)

theorem mem_ordered (hfeed : q.hasFeed db = true) {b : ℤ} :
    b ∈ q.ordered db now ↔ b ∈ q.ztBuckets db ∨ b = q.firstEdge ∨ b = q.lastEdge now := by
  rw [Query.ordered, List.mem_insertionSort, Query.edges, if_pos hfeed, if_pos hfeed, List.mem_append, List.mem_append,
    List.mem_singleton, List.mem_singleton, or_assoc]
  rfl

theorem dvd_of_mem_ordered (hfeed : q.hasFeed db = true) {b : ℤ} (hb : b ∈ q.ordered db now) : FIVE_MINUTES_US ∣ b := by
  rcases (mem_ordered hfeed).mp hb with hb | rfl | rfl
  · exact dvd_of_mem_ztBuckets hb
  · exact dvd_firstEdge
  · exact dvd_lastEdge

theorem pairwise_ordered : (q.ordered db now).Pairwise (· ≤ ·) := List.pairwise_insertionSort _ _

/-- The edges are the first and the last. -/
theorem between_edges (hfeed : q.hasFeed db = true) (hwindow : q.fromUs < min q.toUs now)
    (hstored : ∀ a ∈ db.telemetry, a.bucket ≤ now) {b : ℤ} (hb : b ∈ q.ordered db now) :
    q.firstEdge ≤ b ∧ b ≤ q.lastEdge now := by
  have hfirst : q.firstEdge < q.fromUs := (le_firstEdge_iff dvd_firstEdge).mp le_rfl
  have hlast : min q.toUs now ≤ q.lastEdge now := (lastEdge_le_iff dvd_lastEdge).mp le_rfl
  rcases (mem_ordered hfeed).mp hb with hb | rfl | rfl
  · obtain ⟨⟨hfrom, hto⟩, -, -, -, a, ha, -, rfl⟩ := mem_ztBuckets.mp hb
    have hnow := hstored a ha
    omega
  · omega
  · omega

/-- **What is missing** is between the edges, and not in the feed. -/
theorem missing_eq (hfeed : q.hasFeed db = true) :
    q.Missing db now = Between FIVE_MINUTES_US q.firstEdge (q.lastEdge now) (q.ordered db now) := by
  funext b
  refine propext ?_
  unfold Query.Missing Between
  rw [timeBucket_eq_self_iff, mem_ordered hfeed, mem_ztBuckets]
  constructor
  · rintro ⟨hdvd, ⟨hfrom, hend⟩, hnone⟩
    have hfirst : q.firstEdge < b := not_le.mp fun h => absurd ((le_firstEdge_iff hdvd).mp h) (not_lt.mpr hfrom)
    have hlast : b < q.lastEdge now := not_le.mp fun h => absurd ((lastEdge_le_iff hdvd).mp h) (not_le.mpr hend)
    refine ⟨hdvd, ⟨hfirst, hlast⟩, ?_⟩
    rintro (⟨-, s, hs, hmetric, a, ha, hsensor, heq⟩ | rfl | rfl)
    · exact hnone s hs hmetric a ha hsensor heq
    · exact absurd hfirst (lt_irrefl _)
    · exact absurd hlast (lt_irrefl _)
  · rintro ⟨hdvd, ⟨hfirst, hlast⟩, hnone⟩
    have hfrom : q.fromUs ≤ b := not_lt.mp fun h => absurd ((le_firstEdge_iff hdvd).mpr h) (not_le.mpr hfirst)
    have hend : b < min q.toUs now := not_le.mp fun h => absurd ((lastEdge_le_iff hdvd).mpr h) (not_le.mpr hlast)
    refine ⟨hdvd, ⟨hfrom, hend⟩, fun s hs hmetric a ha hsensor heq => hnone (Or.inl ⟨⟨hfrom, ?_⟩, ?_⟩)⟩
    · exact hend.trans_le (min_le_left _ _)
    · exact ⟨s, hs, hmetric, a, ha, hsensor, heq⟩

theorem isGap_iff {x y : ℤ} : isGap x y = true ↔ 3 * FIVE_MINUTES_US < y - x := by
  rw [isGap, decide_eq_true_iff]
  unfold MINUTE_US FIVE_MINUTES_US
  omega

/-- The run of a jump: how long it is, and where it ends. -/
theorem length_of_isGap {x y : ℤ} (hx : FIVE_MINUTES_US ∣ x) (hy : FIVE_MINUTES_US ∣ y) (hgap : isGap x y = true) :
    3 ≤ ((y - x) / FIVE_MINUTES_US - 1).toNat ∧
      x + FIVE_MINUTES_US + ((y - x) / FIVE_MINUTES_US - 1).toNat * FIVE_MINUTES_US = y ∧
        (y - x) / MINUTE_US - 5 = 5 * ((y - x) / FIVE_MINUTES_US - 1).toNat := by
  have hlong := isGap_iff.mp hgap
  obtain ⟨i, rfl⟩ := hx
  obtain ⟨j, rfl⟩ := hy
  unfold FIVE_MINUTES_US MINUTE_US at *
  omega

theorem mem_jumps_ordered {x y : ℤ} : (x, y) ∈ jumps isGap none (q.ordered db now) ↔ (x ∈ q.ordered db now ∧
    y ∈ q.ordered db now ∧ ∀ z ∈ q.ordered db now, z ≤ x ∨ y ≤ z) ∧ isGap x y = true := by
  rw [mem_jumps]
  refine and_congr_left fun hgap => ?_
  have hlong := isGap_iff.mp hgap
  have hxy : x < y := by
    unfold FIVE_MINUTES_US at hlong
    omega
  rw [mem_lagFrom_iff hxy _ none pairwise_ordered (by simp)]
  simp

/-- **The gaps** of a zone that has a feed. -/
theorem dataGaps_exact (hfeed : q.hasFeed db = true) (hwindow : q.fromUs < min q.toUs now)
    (hstored : ∀ a ∈ db.telemetry, a.bucket ≤ now) : ∃ runs : List (ℤ × ℕ), runs.Nodup ∧
      (∀ a n, (a, n) ∈ runs ↔ 3 ≤ n ∧ IsRun FIVE_MINUTES_US (q.Missing db now) a n) ∧
        (q.dataGaps db now : List (TimelineRow δ)) = runs.map gapOf := by
  have hdvd : ∀ x ∈ q.ordered db now, FIVE_MINUTES_US ∣ x := fun x => dvd_of_mem_ordered hfeed
  have hends : ∀ x ∈ q.ordered db now, q.firstEdge ≤ x ∧ x ≤ q.lastEdge now := fun x =>
    between_edges hfeed hwindow hstored
  have hlo : q.firstEdge ∈ q.ordered db now := (mem_ordered hfeed).mpr (Or.inr (Or.inl rfl))
  have hhi : q.lastEdge now ∈ q.ordered db now := (mem_ordered hfeed).mpr (Or.inr (Or.inr rfl))
  have hlength : ∀ e ∈ jumps isGap none (q.ordered db now), 3 ≤ ((e.2 - e.1) / FIVE_MINUTES_US - 1).toNat ∧
      e.1 + FIVE_MINUTES_US + ((e.2 - e.1) / FIVE_MINUTES_US - 1).toNat * FIVE_MINUTES_US = e.2 ∧
        (e.2 - e.1) / MINUTE_US - 5 = 5 * ((e.2 - e.1) / FIVE_MINUTES_US - 1).toNat := by
    intro e he
    obtain ⟨⟨hx, hy, -⟩, hgap⟩ := mem_jumps_ordered.mp he
    exact length_of_isGap (hdvd _ hx) (hdvd _ hy) hgap
  refine ⟨(jumps isGap none (q.ordered db now)).map fun e =>
    (e.1 + FIVE_MINUTES_US, ((e.2 - e.1) / FIVE_MINUTES_US - 1).toNat), ?_, fun a n => ?_, ?_⟩
  · refine (nodup_jumps (fun x y hgap => ?_) _ _ pairwise_ordered).map_on fun e he e' he' hsame => ?_
    · have hlong := isGap_iff.mp hgap
      unfold FIVE_MINUTES_US at hlong
      omega
    · obtain ⟨hstart, hcount⟩ := Prod.mk.inj hsame
      have hend := (hlength e he).2.1
      rw [hcount, hstart, (hlength e' he').2.1] at hend
      exact Prod.ext (by linarith) hend.symm
  · rw [missing_eq hfeed, List.mem_map]
    constructor
    · rintro ⟨e, he, hrun⟩
      obtain ⟨rfl, rfl⟩ := Prod.mk.inj hrun
      obtain ⟨hlong, hend, -⟩ := hlength e he
      obtain ⟨⟨hx, hy, hnone⟩, -⟩ := mem_jumps_ordered.mp he
      refine ⟨hlong, (isRun_between_iff width_pos hdvd hlo hhi hends (by omega)).mpr ?_⟩
      rw [hend, add_sub_cancel_right]
      exact ⟨hx, hy, hnone⟩
    · rintro ⟨hlong, hrun⟩
      obtain ⟨hx, hy, hnone⟩ := (isRun_between_iff width_pos hdvd hlo hhi hends (by omega)).mp hrun
      have hdiff : a + n * FIVE_MINUTES_US - (a - FIVE_MINUTES_US) = (n + 1) * FIVE_MINUTES_US := by ring
      refine ⟨(a - FIVE_MINUTES_US, a + n * FIVE_MINUTES_US), mem_jumps_ordered.mpr ⟨⟨hx, hy, hnone⟩, ?_⟩, ?_⟩
      · rw [isGap_iff, hdiff]
        unfold FIVE_MINUTES_US
        omega
      · rw [hdiff, Int.mul_ediv_cancel _ width_pos.ne', sub_add_cancel, add_sub_cancel_right, Int.toNat_natCast]
  · rw [Query.dataGaps, List.map_map]
    refine List.map_congr_left fun e he => ?_
    obtain ⟨-, hend, hminutes⟩ := hlength e he
    show dataGap e = gapOf _
    unfold dataGap gapOf
    rw [hminutes, hend]

end Gaps

section Episodes

variable {ι δ : Type} [DecidableEq ι] {db : Database ι} {q : Query ι} {s : Sensor ι}

/-- The flagged buckets of a point. -/
def Query.flaggedStarts (db : Database ι) (q : Query ι) (s : Sensor ι) : Finset ℤ :=
  ((q.flagged db s).map FiveMinutes.bucket).toFinset

theorem mem_flagged {a : FiveMinutes ι} : a ∈ q.flagged db s ↔
    a ∈ db.telemetry ∧ (a.sensorId = s.id ∧ q.fromUs ≤ a.bucket ∧ a.bucket < q.toUs) ∧ 0 < a.badQualityCount := by
  rw [Query.flagged, List.mem_filter, Query.buckets, List.mem_filter, decide_eq_true_iff, decide_eq_true_iff, and_assoc]

theorem mem_flaggedStarts {b : ℤ} : b ∈ q.flaggedStarts db s ↔ ∃ a ∈ q.flagged db s, a.bucket = b := by
  rw [Query.flaggedStarts, List.mem_toFinset, List.mem_map]

theorem flagged_eq : q.Flagged db s = (· ∈ q.flaggedStarts db s) := by
  funext b
  refine propext ?_
  rw [mem_flaggedStarts]
  constructor
  · rintro ⟨hwindow, a, ha, hsensor, rfl, hbad⟩
    exact ⟨a, mem_flagged.mpr ⟨ha, ⟨hsensor, hwindow⟩, hbad⟩, rfl⟩
  · rintro ⟨a, ha, rfl⟩
    obtain ⟨ha, ⟨hsensor, hwindow⟩, hbad⟩ := mem_flagged.mp ha
    exact ⟨hwindow, a, ha, hsensor, rfl, hbad⟩

theorem dvd_of_mem_flaggedStarts : ∀ b ∈ q.flaggedStarts db s, FIVE_MINUTES_US ∣ b := by
  intro b hb
  obtain ⟨a, ha, rfl⟩ := mem_flaggedStarts.mp hb
  exact timeBucket_eq_self_iff.mp (db.aligned a (mem_flagged.mp ha).1)

/-- A point has a bucket once. -/
theorem nodup_flagged (db : Database ι) (q : Query ι) (s : Sensor ι) :
    ((q.flagged db s).map FiveMinutes.bucket).Nodup := by
  have hpairs : ((q.flagged db s).map fun a => (a.sensorId, a.bucket)).Nodup :=
    db.grouped.sublist ((List.filter_sublist.trans List.filter_sublist).map _)
  refine (List.Nodup.of_map _ hpairs).map_on fun a ha b hb hsame => ?_
  refine List.inj_on_of_nodup_map hpairs ha hb (Prod.ext ?_ hsame)
  exact (mem_flagged.mp ha).2.1.1.trans (mem_flagged.mp hb).2.1.1.symm

/-- The flagged rows of a point, in order. -/
def Query.inOrder (db : Database ι) (q : Query ι) (s : Sensor ι) : List (FiveMinutes ι) :=
  (q.flagged db s).insertionSort fun a b => a.bucket ≤ b.bucket

theorem pairwise_inOrder (db : Database ι) (q : Query ι) (s : Sensor ι) :
    (q.inOrder db s).Pairwise fun a b => a.bucket < b.bucket := by
  have hsorted : (q.inOrder db s).Pairwise fun a b => a.bucket ≤ b.bucket := List.pairwise_insertionSort _ _
  have hperm : (q.inOrder db s).Perm (q.flagged db s) := List.perm_insertionSort _ _
  have hnodup : ((q.inOrder db s).map FiveMinutes.bucket).Nodup :=
    (hperm.map FiveMinutes.bucket).nodup_iff.mpr (nodup_flagged db q s)
  exact (hsorted.and (List.pairwise_map.mp hnodup)).imp fun h => lt_of_le_of_ne h.1 h.2

theorem mem_inOrder {a : FiveMinutes ι} : a ∈ q.inOrder db s ↔ a ∈ q.flagged db s := List.mem_insertionSort _

/-- The group of a bucket. -/
def Query.island (db : Database ι) (q : Query ι) (s : Sensor ι) (b : ℤ) : ℤ :=
  b - rank (q.flaggedStarts db s) b * FIVE_MINUTES_US

/-- **The flags of a point**, each with its group. -/
theorem flagsOf_eq (db : Database ι) (q : Query ι) (s : Sensor ι) :
    q.flagsOf db s = (q.inOrder db s).map fun a => ⟨s, a, q.island db s a.bucket⟩ := by
  have hset : ((q.inOrder db s).map FiveMinutes.bucket).toFinset = q.flaggedStarts db s := by
    ext b
    rw [List.mem_toFinset, List.mem_map, mem_flaggedStarts]
    simp only [mem_inOrder]
  have hranks := zipIdx_eq_rank 0 (pairwise_inOrder db q s)
  rw [hset] at hranks
  unfold Query.flagsOf
  show List.map _ ((q.inOrder db s).zipIdx 1) = _
  rw [show 1 = 0 + 1 from rfl, hranks, List.map_map]
  refine List.map_congr_left fun a _ => ?_
  simp [Query.island]

/-- The flags of a group are those of its point. -/
theorem filter_flags (hs : s ∈ q.zs db) (grp : ℤ) :
    ((q.flags db).filter fun f => (f.sensor.id, f.sensor.metric, f.grp) = (s.id, s.metric, grp)) =
      ((q.inOrder db s).filter fun a => q.island db s a.bucket = grp).map fun a => ⟨s, a, grp⟩ := by
  have hids : ((q.zs db).map Sensor.id).Nodup := db.sensorIds.sublist (List.filter_sublist.map Sensor.id)
  have hothers : ∀ s' ∈ q.zs db, decide (s'.id = s.id) = false → (q.flagsOf db s').filter
      (fun f => (f.sensor.id, f.sensor.metric, f.grp) = (s.id, s.metric, grp)) = [] := by
    intro s' _ hne
    refine List.filter_eq_nil_iff.mpr fun f hf hkey => ?_
    rw [flagsOf_eq] at hf
    obtain ⟨a, -, rfl⟩ := List.mem_map.mp hf
    exact of_decide_eq_false hne (Prod.mk.inj (of_decide_eq_true hkey)).1
  rw [Query.flags, List.filter_flatMap, ← flatMap_filter_of_nil hothers, filter_key_eq hids hs, List.flatMap_singleton,
    flagsOf_eq, List.filter_map]
  have hkey : ((q.inOrder db s).filter ((fun f : Flag ι => decide ((f.sensor.id, f.sensor.metric, f.grp) =
      (s.id, s.metric, grp))) ∘ fun a => ⟨s, a, q.island db s a.bucket⟩)) =
      (q.inOrder db s).filter fun a => q.island db s a.bucket = grp := by
    refine List.filter_congr fun a _ => ?_
    simp
  rw [hkey]
  refine List.map_congr_left fun a ha => ?_
  rw [of_decide_eq_true (List.mem_filter.mp ha).2]

variable {a : ℤ} {n : ℕ}

/-- The group of a run has its buckets, each once and in order. -/
theorem map_bucket_island (h : IsRun FIVE_MINUTES_US (q.Flagged db s) a n) :
    ((q.inOrder db s).filter fun r => q.island db s r.bucket = q.island db s a).map FiveMinutes.bucket =
      (List.range n).map fun i : ℕ => a + i * FIVE_MINUTES_US := by
  rw [flagged_eq] at h
  have hleft : (((q.inOrder db s).filter fun r => q.island db s r.bucket = q.island db s a).map
      FiveMinutes.bucket).Pairwise (· < ·) :=
    List.pairwise_map.mpr ((pairwise_inOrder db q s).filter _)
  have hright : ((List.range n).map fun i : ℕ => a + (i : ℤ) * FIVE_MINUTES_US).Pairwise (· < ·) := by
    refine List.pairwise_map.mpr (List.pairwise_lt_range.imp fun {i j} hij => ?_)
    have hless : (i : ℤ) * FIVE_MINUTES_US < j * FIVE_MINUTES_US :=
      mul_lt_mul_of_pos_right (by exact_mod_cast hij) width_pos
    linarith
  refine hleft.eq_of_mem_iff hright fun b => ?_
  have hisland : ∀ b ∈ q.flaggedStarts db s, (q.island db s b = q.island db s a ↔ InRun FIVE_MINUTES_US a n b) := by
    intro b hb
    rw [eq_comm]
    exact h.island_iff width_pos dvd_of_mem_flaggedStarts hb
  constructor
  · intro hb
    obtain ⟨r, hr, rfl⟩ := List.mem_map.mp hb
    obtain ⟨hr, hgrp⟩ := List.mem_filter.mp hr
    obtain ⟨i, hi, heq⟩ := (hisland r.bucket (mem_flaggedStarts.mpr ⟨r, mem_inOrder.mp hr, rfl⟩)).mp
      (of_decide_eq_true hgrp)
    exact List.mem_map.mpr ⟨i, List.mem_range.mpr hi, heq.symm⟩
  · intro hb
    obtain ⟨i, hi, rfl⟩ := List.mem_map.mp hb
    have hi' : i < n := List.mem_range.mp hi
    have hmem : a + (i : ℤ) * FIVE_MINUTES_US ∈ q.flaggedStarts db s := h.mem i hi'
    obtain ⟨r, hr, heq⟩ := mem_flaggedStarts.mp hmem
    refine List.mem_map.mpr ⟨r, List.mem_filter.mpr ⟨mem_inOrder.mpr hr, ?_⟩, heq⟩
    rw [heq]
    exact decide_eq_true ((hisland _ hmem).mpr ⟨i, hi', rfl⟩)

/-- A row of a point is all that the table has of it in its bucket. -/
theorem flaggedAt_eq {r : FiveMinutes ι} (hr : r ∈ db.telemetry) (hsensor : r.sensorId = s.id) :
    db.flaggedAt s r.bucket = r.badQualityCount := by
  have hone := filter_key_eq db.grouped hr
  rw [hsensor] at hone
  rw [Database.flaggedAt, hone]
  simp

/-- **The event of a run.** -/
theorem flagEpisode_eq (h : IsRun FIVE_MINUTES_US (q.Flagged db s) a n) :
    (flagEpisode s.metric ((q.inOrder db s).filter fun r => q.island db s r.bucket = q.island db s a) :
      TimelineRow δ) = episodeOf db (s, a, n) := by
  have hbuckets := map_bucket_island h
  have hpos := h.pos
  have hlength := congrArg List.length hbuckets
  rw [List.length_map, List.length_map, List.length_range] at hlength
  have hbad : ((q.inOrder db s).filter fun r => q.island db s r.bucket = q.island db s a).map
      FiveMinutes.badQualityCount = (List.range n).map fun i : ℕ => db.flaggedAt s (a + i * FIVE_MINUTES_US) := by
    have hmap := congrArg (List.map (db.flaggedAt s)) hbuckets
    rw [List.map_map, List.map_map] at hmap
    refine Eq.trans (List.map_congr_left fun r hr => ?_) hmap
    obtain ⟨hr, ⟨hsensor, -⟩, -⟩ := mem_flagged.mp (mem_inOrder.mp (List.mem_of_mem_filter hr))
    exact (flaggedAt_eq hr hsensor).symm
  have hmin : ((List.range n).map fun i : ℕ => a + (i : ℤ) * FIVE_MINUTES_US).min? = some a := by
    refine List.min?_eq_some_iff.mpr ⟨List.mem_map.mpr ⟨0, List.mem_range.mpr hpos, by simp⟩, fun b hb => ?_⟩
    obtain ⟨i, -, rfl⟩ := List.mem_map.mp hb
    have hnonneg : (0 : ℤ) ≤ i * FIVE_MINUTES_US := mul_nonneg (Nat.cast_nonneg i) width_pos.le
    linarith
  have hmax : ((List.range n).map fun i : ℕ => a + (i : ℤ) * FIVE_MINUTES_US).max? =
      some (a + (n - 1) * FIVE_MINUTES_US) := by
    refine List.max?_eq_some_iff.mpr ⟨List.mem_map.mpr ⟨n - 1, List.mem_range.mpr (by omega), ?_⟩, fun b hb => ?_⟩
    · rw [Nat.cast_pred hpos]
    · obtain ⟨i, hi, rfl⟩ := List.mem_map.mp hb
      have hle : (i : ℤ) ≤ n - 1 := by
        have hi' := List.mem_range.mp hi
        omega
      have hmul := mul_le_mul_of_nonneg_right hle width_pos.le
      linarith
  unfold flagEpisode episodeOf
  rw [hbuckets, hmin, hmax, hbad, hlength, Option.getD_some, Option.getD_some]
  have hend : a + ((n : ℤ) - 1) * FIVE_MINUTES_US + FIVE_MINUTES_US = a + n * FIVE_MINUTES_US := by ring
  rw [hend]

omit [DecidableEq ι] in
/-- A flagged bucket is in a run. -/
theorem exists_flagged_run {b : ℤ} (hb : q.Flagged db s b) :
    ∃ a n, IsRun FIVE_MINUTES_US (q.Flagged db s) a n ∧ InRun FIVE_MINUTES_US a n b :=
  exists_run width_pos (fun _ h => h.1) hb

/-- Runs of one group are the same. -/
theorem run_unique {a' : ℤ} {n' : ℕ} (h : IsRun FIVE_MINUTES_US (q.Flagged db s) a n)
    (h' : IsRun FIVE_MINUTES_US (q.Flagged db s) a' n') (hsame : q.island db s a = q.island db s a') :
    a = a' ∧ n = n' := by
  have hfirst : a' ∈ q.flaggedStarts db s := by
    have hflagged := h'.first
    rwa [flagged_eq] at hflagged
  have hself : InRun FIVE_MINUTES_US a' n' a' := ⟨0, h'.pos, by simp⟩
  have hin : InRun FIVE_MINUTES_US a n a' := by
    rw [flagged_eq] at h
    exact (h.island_iff width_pos dvd_of_mem_flaggedStarts hfirst).mp hsame
  exact h.unique h' hin hself

/-- A bucket is in the group of its run. -/
theorem island_of_inRun (h : IsRun FIVE_MINUTES_US (q.Flagged db s) a n) {b : ℤ}
    (hb : InRun FIVE_MINUTES_US a n b) : q.island db s b = q.island db s a := by
  have hflagged := h.of_inRun hb
  rw [flagged_eq] at h hflagged
  exact ((h.island_iff width_pos dvd_of_mem_flaggedStarts hflagged).mpr hb).symm

/-- The groups of the flags. -/
def Query.islands (db : Database ι) (q : Query ι) : List ((ι × MetricType × ℤ) × List (Flag ι)) :=
  (groupBy (fun f => (f.sensor.id, f.sensor.metric, f.grp)) (q.flags db)).entries

/-- The key of the group of a run. -/
def Query.keyOf (db : Database ι) (q : Query ι) (run : Sensor ι × ℤ × ℕ) : ι × MetricType × ℤ :=
  (run.1.id, run.1.metric, q.island db run.1 run.2.1)

/-- **A group is a run.** -/
theorem exists_run_of_mem_islands {g : (ι × MetricType × ℤ) × List (Flag ι)} (hg : g ∈ q.islands db) :
    ∃ run : Sensor ι × ℤ × ℕ, (run.1 ∈ q.zs db ∧ IsRun FIVE_MINUTES_US (q.Flagged db run.1) run.2.1 run.2.2) ∧
      q.keyOf db run = g.1 ∧ (flagEpisode g.1.2.1 (g.2.map Flag.row) : TimelineRow δ) = episodeOf db run := by
  obtain ⟨hgroup, hne⟩ := eq_of_mem_groupBy hg
  obtain ⟨f, hf⟩ := List.exists_mem_of_ne_nil _ hne
  rw [hgroup] at hf
  obtain ⟨hf, hkey⟩ := List.mem_filter.mp hf
  obtain ⟨s, hs, hf⟩ := List.mem_flatMap.mp hf
  rw [flagsOf_eq] at hf
  obtain ⟨r, hr, rfl⟩ := List.mem_map.mp hf
  have hflagged : q.Flagged db s r.bucket := by
    rw [flagged_eq]
    exact mem_flaggedStarts.mpr ⟨r, mem_inOrder.mp hr, rfl⟩
  obtain ⟨a, n, hrun, hin⟩ := exists_flagged_run hflagged
  have hkey' : (s.id, s.metric, q.island db s a) = g.1 := by
    rw [← island_of_inRun hrun hin]
    exact of_decide_eq_true hkey
  refine ⟨(s, a, n), ⟨hs, hrun⟩, hkey', ?_⟩
  rw [hgroup, ← hkey', filter_flags hs, List.map_map]
  show flagEpisode s.metric (List.map (fun r => r) _) = _
  rw [List.map_id', flagEpisode_eq hrun]

/-- A run has its group. -/
theorem keyOf_mem_islands (hs : s ∈ q.zs db) (h : IsRun FIVE_MINUTES_US (q.Flagged db s) a n) :
    q.keyOf db (s, a, n) ∈ (q.islands db).map Prod.fst := by
  have hfirst := h.first
  rw [flagged_eq] at hfirst
  obtain ⟨r, hr, rfl⟩ := mem_flaggedStarts.mp hfirst
  have hflag : (⟨s, r, q.island db s r.bucket⟩ : Flag ι) ∈ q.flags db := by
    refine List.mem_flatMap.mpr ⟨s, hs, ?_⟩
    rw [flagsOf_eq]
    exact List.mem_map.mpr ⟨r, mem_inOrder.mpr hr, rfl⟩
  exact mem_keys_groupBy (fun f : Flag ι => (f.sensor.id, f.sensor.metric, f.grp)) hflag

/-- Two runs of a zone with one key are the same. -/
theorem keyOf_inj {run run' : Sensor ι × ℤ × ℕ} (hs : run.1 ∈ q.zs db) (hs' : run'.1 ∈ q.zs db)
    (h : IsRun FIVE_MINUTES_US (q.Flagged db run.1) run.2.1 run.2.2)
    (h' : IsRun FIVE_MINUTES_US (q.Flagged db run'.1) run'.2.1 run'.2.2)
    (hsame : q.keyOf db run = q.keyOf db run') : run = run' := by
  obtain ⟨s, a, n⟩ := run
  obtain ⟨s', a', n'⟩ := run'
  have hids : ((q.zs db).map Sensor.id).Nodup := db.sensorIds.sublist (List.filter_sublist.map Sensor.id)
  obtain ⟨hid, hrest⟩ := Prod.mk.inj hsame
  obtain rfl : s = s' := List.inj_on_of_nodup_map hids hs hs' hid
  obtain ⟨rfl, rfl⟩ := run_unique h h' (Prod.mk.inj hrest).2
  rfl

/-- **The episodes** of a zone. -/
theorem flagEpisodes_exact (db : Database ι) (q : Query ι) : ∃ runs : List (Sensor ι × ℤ × ℕ), runs.Nodup ∧
    (∀ s a n, (s, a, n) ∈ runs ↔ s ∈ q.zs db ∧ IsRun FIVE_MINUTES_US (q.Flagged db s) a n) ∧
      (q.flagEpisodes db : List (TimelineRow δ)) = runs.map (episodeOf db) := by
  choose run hrun using fun g (hg : g ∈ q.islands db) => exists_run_of_mem_islands (δ := δ) hg
  have hkeys : ((q.islands db).pmap run fun _ h => h).map (q.keyOf db) = (q.islands db).map Prod.fst := by
    rw [List.map_pmap]
    exact (List.pmap_congr_left _ fun g _ hg _ => (hrun g hg).2.1).trans (List.pmap_eq_map fun _ h => h)
  refine ⟨(q.islands db).pmap run fun _ h => h, ?_, fun s a n => ?_, ?_⟩
  · refine List.Nodup.of_map (q.keyOf db) ?_
    rw [hkeys]
    exact (groupBy _ _).nodup
  · constructor
    · intro hmem
      obtain ⟨g, hg, heq⟩ := List.mem_pmap.mp hmem
      have hg' := (hrun g hg).1
      rw [heq] at hg'
      exact hg'
    · rintro ⟨hs, h⟩
      obtain ⟨g, hg, hfst⟩ := List.mem_map.mp (keyOf_mem_islands hs h)
      refine List.mem_pmap.mpr ⟨g, hg, ?_⟩
      obtain ⟨⟨hs', h'⟩, hkey, -⟩ := hrun g hg
      exact keyOf_inj hs' hs h' h (hkey.trans hfst)
  · rw [List.map_pmap]
    exact ((List.pmap_congr_left _ fun g _ hg _ => (hrun g hg).2.2.symm).trans (List.pmap_eq_map fun _ h => h)).symm

end Episodes

/-! ## The timeline -/

section Timeline

variable {ι δ : Type} [DecidableEq ι] (db : Database ι) (q : Query ι) (now : ℤ) (others : List (OtherEvent δ))

/-- Of the events, the episodes and the gaps are those found in the buckets. -/
theorem filter_ev : (q.ev db now others).filter (fun e => e.kind = .flagEpisode) = q.flagEpisodes db ∧
    (q.ev db now others).filter (fun e => e.kind = .dataGap) = q.dataGaps db now := by
  have hepisodes : ∀ e ∈ (q.flagEpisodes db : List (TimelineRow δ)), e.kind = .flagEpisode := by
    intro e he
    obtain ⟨g, -, rfl⟩ := List.mem_map.mp he
    rfl
  have hgaps : ∀ e ∈ (q.dataGaps db now : List (TimelineRow δ)), e.kind = .dataGap := by
    intro e he
    obtain ⟨g, -, rfl⟩ := List.mem_map.mp he
    rfl
  have hothers : ∀ e ∈ others.map fun e => (⟨e.time, e.kind, .other e.detail⟩ : TimelineRow δ),
      e.kind ≠ .flagEpisode ∧ e.kind ≠ .dataGap := by
    intro e he
    obtain ⟨o, -, rfl⟩ := List.mem_map.mp he
    exact ⟨o.not_flagEpisode, o.not_dataGap⟩
  unfold Query.ev
  rw [List.filter_append, List.filter_append, List.filter_append, List.filter_append]
  constructor
  · rw [List.filter_eq_nil_iff.mpr fun e he => by simpa using (hothers e he).1,
      List.filter_eq_self.mpr fun e he => by simpa using hepisodes e he,
      List.filter_eq_nil_iff.mpr fun e he => by simp [hgaps e he], List.nil_append, List.append_nil]
  · rw [List.filter_eq_nil_iff.mpr fun e he => by simpa using (hothers e he).2,
      List.filter_eq_nil_iff.mpr fun e he => by simp [hepisodes e he],
      List.filter_eq_self.mpr fun e he => by simpa using hgaps e he, List.nil_append, List.nil_append]

/-- The rows are the events, if they are not cut. -/
theorem items_perm (le : String → String → Bool) (hlimit : (q.ev db now others).length ≤ q.limit) :
    (copilotZoneTimeline db q le now others).items.Perm (q.ev db now others) := by
  have hperm : ((q.ev db now others).insertionSort fun r r' => newerFirst le r r').Perm (q.ev db now others) :=
    List.perm_insertionSort _ _
  have hall : ((q.ev db now others).insertionSort fun r r' => newerFirst le r r').take q.limit =
      (q.ev db now others).insertionSort fun r r' => newerFirst le r r' :=
    List.take_of_length_le (by rwa [List.length_insertionSort])
  show (List.reverse (List.take _ _)).Perm _
  rw [hall]
  exact (List.reverse_perm _).trans hperm

theorem episodesExact_ev : EpisodesExact db q (q.ev db now others) := by
  obtain ⟨runs, hnodup, hmem, hruns⟩ := flagEpisodes_exact (δ := δ) db q
  refine ⟨runs, hnodup, hmem, fun s hs b hb => ?_, ?_⟩
  · obtain ⟨a, n, hrun, hin⟩ := exists_flagged_run hb
    refine ⟨(s, a, n), ⟨(hmem s a n).mpr ⟨hs, hrun⟩, rfl, hin⟩, ?_⟩
    rintro ⟨s', a', n'⟩ ⟨hrun', rfl, hin'⟩
    obtain ⟨rfl, rfl⟩ := ((hmem _ _ _).mp hrun').2.unique hrun hin' hin
    rfl
  · rw [(filter_ev db q now others).1, hruns]

theorem gapsExact_ev (hfeed : q.hasFeed db = true) (hwindow : q.fromUs < min q.toUs now)
    (hstored : ∀ a ∈ db.telemetry, a.bucket ≤ now) : GapsExact db q now (q.ev db now others) := by
  obtain ⟨runs, hnodup, hmem, hruns⟩ := dataGaps_exact (δ := δ) hfeed hwindow hstored
  exact ⟨runs, hnodup, hmem, by rw [(filter_ev db q now others).2, hruns]⟩

/-- Without a feed there is no gap. -/
theorem no_gaps (hfeed : q.hasFeed db = false) :
    (q.ev db now others).filter (fun e => e.kind = .dataGap) = [] := by
  have hzt : q.ztBuckets db = [] := by
    have hnone : ((q.zs db).filter fun s => s.metric = .temperatureC) = [] := by
      refine List.filter_eq_nil_iff.mpr fun s hs => ?_
      exact List.any_eq_false.mp hfeed s hs
    rw [Query.ztBuckets, hnone]
    rfl
  have hedges : q.edges db now = [] := by
    rw [Query.edges, hzt, hfeed]
    rfl
  rw [(filter_ev db q now others).2, Query.dataGaps, hedges]
  rfl

/-- **Gaps and episodes.**  Of the events that are found, of which the rows are all unless they are cut, the gaps of a
zone with an active temperature point are the maximal runs of three or more buckets in which no temperature sample
arrived, and a zone without one has none; the episodes are the maximal runs of flagged buckets of each point. -/
theorem timeline_exact (le : String → String → Bool) (hwindow : q.fromUs < min q.toUs now)
    (hstored : ∀ a ∈ db.telemetry, a.bucket ≤ now) :
    ((q.ev db now others).length ≤ q.limit →
      (copilotZoneTimeline db q le now others).items.Perm (q.ev db now others)) ∧
    (q.hasFeed db = true → GapsExact db q now (q.ev db now others)) ∧
    (q.hasFeed db = false → (q.ev db now others).filter (fun e => e.kind = .dataGap) = []) ∧
    EpisodesExact db q (q.ev db now others) :=
  ⟨items_perm db q now others le, fun hfeed => gapsExact_ev db q now others hfeed hwindow hstored,
    no_gaps db q now others, episodesExact_ev db q now others⟩

end Timeline

/-- The five minute rows of the point of `office`. -/
def officeTelemetry : List (FiveMinutes ℕ) := [⟨100, 0, 0⟩, ⟨100, 1200000000, 2⟩]

theorem officeTelemetry_grouped : (officeTelemetry.map fun a => (a.sensorId, a.bucket)).Nodup := by decide

theorem officeTelemetry_aligned : ∀ a ∈ officeTelemetry, timeBucket a.bucket = a.bucket := by decide

/-- An office with a temperature point that was silent for a quarter of an hour and came back flagged. -/
def office : Database ℕ where
  sensors := [⟨100, none, some 10, .temperatureC, true⟩]
  telemetry := officeTelemetry
  sensorIds := List.nodup_singleton _
  grouped := officeTelemetry_grouped
  aligned := officeTelemetry_aligned

/-- Half an hour of the office. -/
def officeQuery : Query ℕ := ⟨10, 0, 1800000000, 100⟩

theorem timeline_exact_office :
    ((officeQuery.ev office 3600000000 ([] : List (OtherEvent Unit))).length ≤ officeQuery.limit →
      (copilotZoneTimeline office officeQuery (fun _ _ => true) 3600000000 []).items.Perm
        (officeQuery.ev office 3600000000 ([] : List (OtherEvent Unit)))) ∧
    (officeQuery.hasFeed office = true →
      GapsExact office officeQuery 3600000000 (officeQuery.ev office 3600000000 ([] : List (OtherEvent Unit)))) ∧
    (officeQuery.hasFeed office = false →
      (officeQuery.ev office 3600000000 ([] : List (OtherEvent Unit))).filter (fun e => e.kind = .dataGap) = []) ∧
    EpisodesExact office officeQuery (officeQuery.ev office 3600000000 ([] : List (OtherEvent Unit))) :=
  timeline_exact office officeQuery 3600000000 [] (fun _ _ => true) (by decide) (by decide)

example : (officeQuery.dataGaps office 3600000000).map (fun e : TimelineRow Unit => e.time) = [300000000] := by
  decide +kernel

/-- A store room with a humidity point. -/
def storeRoom : Database ℕ where
  sensors := [⟨100, none, some 10, .humidityPct, true⟩]
  telemetry := []
  sensorIds := List.nodup_singleton _
  grouped := List.nodup_nil
  aligned := fun _ ha => absurd ha List.not_mem_nil

/-- An hour without a temperature sample, in a zone that has no temperature point, is no gap. -/
theorem no_feed_no_gap :
    ¬ GapsExact storeRoom ⟨10, 0, 3600000000, 100⟩ 3600000000
      ((⟨10, 0, 3600000000, 100⟩ : Query ℕ).ev storeRoom 3600000000 ([] : List (OtherEvent Unit))) := by
  rintro ⟨runs, -, hmem, hruns⟩
  have hrun : IsRun FIVE_MINUTES_US ((⟨10, 0, 3600000000, 100⟩ : Query ℕ).Missing storeRoom 3600000000) 0 12 := by
    refine ⟨by omega, fun i hi => ⟨?_, ⟨?_, ?_⟩, fun s hs hmetric => ?_⟩, fun h => ?_, fun h => ?_⟩
    · exact timeBucket_eq_self_iff.mpr ⟨i, by ring⟩
    · show (0 : ℤ) ≤ 0 + (i : ℤ) * 300000000
      omega
    · show 0 + (i : ℤ) * 300000000 < min 3600000000 3600000000
      omega
    · have hpoint : s = ⟨100, none, some 10, .humidityPct, true⟩ := List.mem_singleton.mp (List.mem_of_mem_filter hs)
      rw [hpoint] at hmetric
      exact absurd hmetric (by decide)
    · exact absurd h.2.1.1 (by decide)
    · exact absurd h.2.1.2 (by decide)
  have hin := (hmem 0 12).mpr ⟨by omega, hrun⟩
  rw [no_gaps _ _ _ _ rfl] at hruns
  rw [List.map_eq_nil_iff.mp hruns.symm] at hin
  exact absurd hin List.not_mem_nil

end DTwin.Db.Timeline
