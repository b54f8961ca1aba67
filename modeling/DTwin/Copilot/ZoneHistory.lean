import DTwin.Copilot.Evidence
import DTwin.Copilot.Windows
import DTwin.Db.History

/-!
# DTwin.Copilot.ZoneHistory — the series of a zone on one axis

The tool `zone_history` of `apps/web/lib/copilot/tools/diagnose.ts` over the rows of `copilotZoneHistory`.  Series are
columns on one axis of at most 48 buckets; numbers are exact, and `data` holds them to four places.

Whatever is stored, no window that the tool takes is refused by the query, and each cell says what the samples of the
sensors of its metric in its bucket do (`zone_history_exact`).
-/

namespace DTwin.Copilot.ZoneHistory

open Series Db.Rollups Db.History Db.Tables

/-! ## The tool -/

/-- `COPILOT_ZONE_METRICS`, restated. -/
def ZONE_METRICS : List MetricType := COPILOT_ZONE_METRICS

def zoneHistoryMaxWindowH : ℤ := 48

def zoneHistory5mMaxSpanH : ℤ := 4

structure ZoneHistoryInput (ι : Type) where
  zoneId : ι
  metrics : List MetricType
  fromMs : ℤ
  toMs : ℤ

inductive Refused (ι : Type)
  | invalidInput
  | unknownZone (zoneId : ι)
  | window (refusal : WindowRefusal)

structure HistoryPrepared (ι : Type) where
  zone : ι
  w : Window
  metrics : List MetricType
  resolution : Width

variable {ι : Type} [DecidableEq ι]

def prepare (directory : List ι) (input : ZoneHistoryInput ι) (now : ℤ) : Except (Refused ι) (HistoryPrepared ι) :=
  if input.metrics = [] ∨ 4 < input.metrics.length ∨ ¬ input.metrics.Nodup ∨ ∃ m ∈ input.metrics, m ∉ ZONE_METRICS then
    .error .invalidInput
  else if input.zoneId ∉ directory then .error (.unknownZone input.zoneId)
  else match checkWindow input.fromMs input.toMs zoneHistoryMaxWindowH now with
    | .error refusal => .error (.window refusal)
    | .ok w => .ok
      { zone := input.zoneId
        w
        metrics := input.metrics
        resolution := if w.toMs - w.fromMs ≤ zoneHistory5mMaxSpanH * HOUR_MS then .fiveMinutes else .hour }

/-- A column of the data. -/
structure Column where
  metric : MetricType
  mean : List (Option ℚ)
  flaggedCount : List ℕ
deriving DecidableEq

structure Draft where
  resolution : Width
  window : Window
  goodCount : ℕ
  expectedCount : ℕ
  flaggedExcluded : ℕ
  caveats : List CaveatId
  headline : List (MetricType × ℕ)
  stepS : ℤ
  atMs : List ℤ
  series : List Column
  noSensor : List MetricType

/-- A number as evidence holds it. -/
def round4 (v : ℚ) : ℚ := Decimal.mathRound (v * 10000) / 10000

/-- Under 95 % of the expected good buckets. -/
def isPartial (good expected : ℕ) : Bool := 0 < expected && (good : ℚ) / expected < 95 / 100

structure Grid where
  start : ℤ
  widthMs : ℤ
  n : ℕ

def gridOf (w : Window) (resolution : Width) (now : ℤ) : Grid where
  start := -(-w.fromMs / resolution.ms) * resolution.ms
  widthMs := resolution.ms
  n := bucketsIn w.fromMs (min w.toMs now) resolution.seconds

def Grid.atMs (g : Grid) : List ℤ := (List.range g.n).map fun i : ℕ => g.start + i * g.widthMs

def Grid.index (g : Grid) (p : HistoryPoint) : Option ℕ :=
  let i := (p.atMs - g.start) / g.widthMs
  if (p.atMs - g.start) % g.widthMs = 0 ∧ 0 ≤ i ∧ i < g.n then some i.toNat else none

/-- `means` and `flags`. -/
def Grid.column (g : Grid) (metric : MetricType) (points : List HistoryPoint) : Column :=
  let cells := Series.place g.index g.n points
  ⟨metric, cells.map fun c => c.bind HistoryPoint.mean, cells.map fun c => c.elim 0 HistoryPoint.flaggedCount⟩

def Column.present (c : Column) : ℕ := c.mean.countP Option.isSome

/-- The last index with a mean. -/
def Column.last (c : Column) : Option ℕ :=
  c.mean.zipIdx.foldl (fun last v => if v.1.isSome then some v.2 else last) none

def draft (p : HistoryPrepared ι) (g : Grid) (columns : List Column) (noSensor : List MetricType) : Draft :=
  let flagged := (columns.map fun c => c.flaggedCount.sum).sum
  { resolution := p.resolution
    window := p.w
    goodCount := (columns.map Column.present).sum
    expectedCount := g.n * (p.metrics.length - noSensor.length)
    flaggedExcluded := flagged
    caveats := (if 0 < flagged then [.FLAGGED_EXCLUDED] else []) ++
      (if columns.any fun c => isPartial c.present g.n then [.PARTIAL_COVERAGE] else [])
    headline := columns.filterMap fun c => c.last.map fun i => (c.metric, i)
    stepS := g.widthMs / 1000
    atMs := g.atMs
    series := columns.map fun c => { c with mean := c.mean.map fun v => v.map round4 }
    noSensor }

def execute (db : Measured ι) (p : HistoryPrepared ι) (now : ℤ) : Except Db.History.RangeError Draft :=
  (copilotZoneHistory db ⟨p.zone, p.metrics, p.resolution, p.w.fromMs, p.w.toMs⟩).map fun series =>
    let g := gridOf p.w p.resolution now
    draft p g (p.metrics.filterMap fun m => (series m).map (g.column m))
      (p.metrics.filter fun m => (series m).isNone)

/-! ## What the samples say -/

/-- The samples of the active sensors of a metric in a zone, in a bucket. -/
def samplesAt (db : Measured ι) (zoneId : ι) (resolution : Width) (m : MetricType) (b : ℤ) : List (Sample ι) :=
  db.telemetry.filter fun r => timeBucket resolution r.time = b ∧
    ∃ s ∈ db.sensors, s.id = r.sensorId ∧ s.zoneId = some zoneId ∧ s.isActive ∧ s.metric = m

/-- There is an active sensor of a metric in a zone. -/
def HasSensor (db : Measured ι) (zoneId : ι) (m : MetricType) : Prop :=
  ∃ s ∈ db.sensors, s.zoneId = some zoneId ∧ s.isActive ∧ s.metric = m

instance (db : Measured ι) (zoneId : ι) (m : MetricType) : Decidable (HasSensor db zoneId m) :=
  inferInstanceAs (Decidable (∃ s ∈ db.sensors, _))

/-- The answer about a zone is what its samples say: the axis is the buckets of the window that have begun, a column is
by bucket the mean of the good samples and the number of the flagged ones, and the rest is counted on that. -/
structure Exact (db : Measured ι) (p : HistoryPrepared ι) (now : ℤ) (d : Draft) : Prop where
  axis : d.atMs.Pairwise (· < ·) ∧
    ∀ b, b ∈ d.atMs ↔ (p.w.fromMs ≤ b ∧ b < min p.w.toMs now) ∧ timeBucket p.resolution b = b
  short : d.atMs.length ≤ 48
  series : d.series = (p.metrics.filter fun m => HasSensor db p.zone m).map fun m =>
    { metric := m
      mean := d.atMs.map fun b =>
        (sqlAvg ((good (samplesAt db p.zone p.resolution m b)).map Sample.value)).map round4
      flaggedCount := d.atMs.map fun b => (flagged (samplesAt db p.zone p.resolution m b)).length }
  noSensor : d.noSensor = p.metrics.filter fun m => ¬ HasSensor db p.zone m
  goodCount : d.goodCount = ((p.metrics.filter fun m => HasSensor db p.zone m).map fun m =>
    d.atMs.countP fun b => good (samplesAt db p.zone p.resolution m b) ≠ []).sum
  expectedCount : d.expectedCount = d.atMs.length * (p.metrics.filter fun m => HasSensor db p.zone m).length
  flaggedExcluded : d.flaggedExcluded =
    (p.metrics.map fun m => (d.atMs.map fun b => (flagged (samplesAt db p.zone p.resolution m b)).length).sum).sum
  partialCoverage : .PARTIAL_COVERAGE ∈ d.caveats ↔ ∃ m ∈ p.metrics, HasSensor db p.zone m ∧
    100 * d.atMs.countP (fun b => good (samplesAt db p.zone p.resolution m b) ≠ []) < 95 * d.atMs.length
  flaggedCaveat : .FLAGGED_EXCLUDED ∈ d.caveats ↔
    ∃ m ∈ p.metrics, ∃ b ∈ d.atMs, flagged (samplesAt db p.zone p.resolution m b) ≠ []
  headline : ∀ m i, (m, i) ∈ d.headline ↔ m ∈ p.metrics ∧ ∃ b, d.atMs[i]? = some b ∧
    good (samplesAt db p.zone p.resolution m b) ≠ [] ∧
    ∀ b' ∈ d.atMs, b < b' → good (samplesAt db p.zone p.resolution m b') = []

/-! ## What is let through -/

section Prepared

variable {directory : List ι} {input : ZoneHistoryInput ι} {before now : ℤ} {p : HistoryPrepared ι}

/-- What `prepare` makes of a window. -/
theorem prepare_ok (hp : prepare directory input before = .ok p) :
    p.metrics = input.metrics ∧ p.metrics.Nodup ∧ p.w.fromMs < p.w.toMs ∧
      (p.resolution = .fiveMinutes ∧ p.w.toMs - p.w.fromMs ≤ 14400000 ∨
        p.resolution = .hour ∧ p.w.toMs - p.w.fromMs ≤ 172800000) := by
  unfold prepare checkWindow at hp
  split_ifs at hp with hinput hzone hafter hfuture hlong
  obtain rfl := Except.ok.inj hp
  refine ⟨rfl, not_not.mp fun h => hinput (Or.inr (Or.inr (Or.inl h))), not_le.mp hafter, ?_⟩
  by_cases hshort : input.toMs - input.fromMs ≤ zoneHistory5mMaxSpanH * HOUR_MS
  · exact Or.inl ⟨if_pos hshort, hshort⟩
  · exact Or.inr ⟨if_neg hshort, not_lt.mp hlong⟩

theorem not_refused (hp : prepare directory input before = .ok p) :
    ¬ maxHistoryHours p.resolution < Query.spanH ⟨p.zone, p.metrics, p.resolution, p.w.fromMs, p.w.toMs⟩ := by
  obtain ⟨-, -, -, ⟨hres, hspan⟩ | ⟨hres, hspan⟩⟩ := prepare_ok hp
  · have hcast : ((p.w.toMs - p.w.fromMs : ℤ) : ℚ) ≤ 14400000 := by exact_mod_cast hspan
    rw [hres, not_lt, Query.spanH, div_le_iff₀ (by norm_num)]
    norm_num [maxHistoryHours, MAX_BUCKETS, BUCKET_HOURS]
    push_cast at hcast
    linarith
  · have hcast : ((p.w.toMs - p.w.fromMs : ℤ) : ℚ) ≤ 172800000 := by exact_mod_cast hspan
    rw [hres, not_lt, Query.spanH, div_le_iff₀ (by norm_num)]
    norm_num [maxHistoryHours, MAX_BUCKETS, BUCKET_HOURS]
    push_cast at hcast
    linarith

/-- The multiples of a width in a window, from the first one on. -/
theorem exists_start_iff {w lo hi b : ℤ} (hw : 0 < w) :
    (∃ i < (-(-hi / w) - -(-lo / w)).toNat, -(-lo / w) * w + (i : ℕ) * w = b) ↔ (lo ≤ b ∧ b < hi) ∧ w ∣ b := by
  have hlo : ∀ c : ℤ, lo ≤ w * c ↔ -(-lo / w) ≤ c := by
    intro c
    have hle := Int.le_ediv_iff_mul_le (a := -c) (b := -lo) hw
    rw [neg_mul, mul_comm] at hle
    omega
  have hhi : ∀ c : ℤ, w * c < hi ↔ c < -(-hi / w) := by
    intro c
    have hlt := Int.ediv_lt_iff_lt_mul (a := -hi) (b := -c) hw
    rw [neg_mul, mul_comm] at hlt
    omega
  constructor
  · rintro ⟨i, hi', rfl⟩
    have hb : -(-lo / w) * w + (i : ℤ) * w = w * (-(-lo / w) + i) := by ring
    rw [hb, hlo, hhi]
    exact ⟨⟨by omega, by omega⟩, dvd_mul_right _ _⟩
  · rintro ⟨⟨hfrom, hto⟩, c, rfl⟩
    rw [hlo] at hfrom
    rw [hhi] at hto
    refine ⟨(c - -(-lo / w)).toNat, by omega, ?_⟩
    rw [Int.toNat_of_nonneg (by omega)]
    ring

theorem n_gridOf (w : Window) (resolution : Width) (now : ℤ) : (gridOf w resolution now).n =
    (-(-min w.toMs now / resolution.ms) - -(-w.fromMs / resolution.ms)).toNat :=
  bucketsIn_eq _ _ (by cases resolution <;> decide)

/-- The axis is the bucket starts of the window up to now. -/
theorem mem_atMs (w : Window) (resolution : Width) (now b : ℤ) :
    b ∈ (gridOf w resolution now).atMs ↔
      (w.fromMs ≤ b ∧ b < min w.toMs now) ∧ timeBucket resolution b = b := by
  rw [Db.Coverage.timeBucket_eq_self_iff, ← exists_start_iff (ms_pos resolution), Grid.atMs, List.mem_map]
  simp only [List.mem_range, n_gridOf]
  rfl

theorem length_atMs_le (hp : prepare directory input before = .ok p) (now : ℤ) :
    (gridOf p.w p.resolution now).atMs.length ≤ 48 := by
  rw [Grid.atMs, List.length_map, List.length_range, n_gridOf]
  obtain ⟨-, -, hafter, ⟨hres, hspan⟩ | ⟨hres, hspan⟩⟩ := prepare_ok hp
  all_goals
    simp only [hres, Width.ms, Width.seconds]
    omega

end Prepared

theorem sorted_atMs {g : Grid} (hw : 0 < g.widthMs) : g.atMs.Pairwise (· < ·) := by
  refine List.pairwise_map.mpr (List.pairwise_lt_range.imp fun {i j} hij => ?_)
  have hlt : (i : ℤ) * g.widthMs < j * g.widthMs := mul_lt_mul_of_pos_right (by exact_mod_cast hij) hw
  omega

theorem index_eq_some {g : Grid} (hw : 0 < g.widthMs) {k : ℕ} (hk : k < g.n) {p : HistoryPoint} :
    g.index p = some k ↔ p.atMs = g.start + k * g.widthMs := by
  simp only [Grid.index]
  constructor
  · intro hindex
    split_ifs at hindex with hplace
    have hquot : (p.atMs - g.start) / g.widthMs = k := by
      have hnat := Option.some.inj hindex
      omega
    have hdiv := Int.mul_ediv_add_emod (p.atMs - g.start) g.widthMs
    rw [hplace.1, hquot, mul_comm] at hdiv
    omega
  · intro hat
    have hsub : p.atMs - g.start = k * g.widthMs := by omega
    rw [hsub, Int.mul_ediv_cancel _ hw.ne', if_pos ⟨Int.mul_emod_left _ _, by omega, by exact_mod_cast hk⟩]
    rfl

/-! ## The cells -/

section Cells

variable {db : Measured ι} {p : HistoryPrepared ι} {m : MetricType}

/-- The ids of the sensors that a series is of. -/
def idsOf (db : Measured ι) (p : HistoryPrepared ι) (m : MetricType) : List ι :=
  ((active db p.zone p.metrics).filter fun s => s.metric = m).map Sensor.id

theorem nodup_idsOf : (idsOf db p m).Nodup :=
  db.sensorIds.sublist ((List.filter_sublist.trans List.filter_sublist).map Sensor.id)

theorem mem_idsOf (hm : m ∈ p.metrics) {id : ι} : id ∈ idsOf db p m ↔
    ∃ s ∈ db.sensors, s.id = id ∧ s.zoneId = some p.zone ∧ s.isActive ∧ s.metric = m := by
  simp only [idsOf, Db.History.active, List.mem_map, List.mem_filter, decide_eq_true_eq]
  constructor
  · rintro ⟨s, ⟨⟨hs, hzone, hactive, -⟩, hmetric⟩, hid⟩
    exact ⟨s, hs, hid, hzone, hactive, hmetric⟩
  · rintro ⟨s, hs, hid, hzone, hactive, hmetric⟩
    exact ⟨s, ⟨⟨hs, hzone, hactive, hmetric ▸ hm⟩, hmetric⟩, hid⟩

theorem idsOf_eq_nil_iff (hm : m ∈ p.metrics) : idsOf db p m = [] ↔ ¬ HasSensor db p.zone m := by
  rw [List.eq_nil_iff_forall_not_mem]
  constructor
  · rintro hnone ⟨s, hs, hzone, hactive, hmetric⟩
    exact hnone s.id ((mem_idsOf hm).mpr ⟨s, hs, rfl, hzone, hactive, hmetric⟩)
  · intro hnone id hid
    obtain ⟨s, hs, -, hzone, hactive, hmetric⟩ := (mem_idsOf hm).mp hid
    exact hnone ⟨s, hs, hzone, hactive, hmetric⟩

theorem samplesAt_eq (hm : m ∈ p.metrics) (b : ℤ) : samplesAt db p.zone p.resolution m b =
    (samplesOf db.telemetry (idsOf db p m)).filter fun r => timeBucket p.resolution r.time = b := by
  unfold samplesAt samplesOf
  rw [List.filter_filter]
  refine List.filter_congr fun r _ => ?_
  rw [Bool.eq_iff_iff]
  simp only [decide_eq_true_eq, Bool.and_eq_true, mem_idsOf hm]

theorem samplesAt_eq_nil (hnone : ¬ HasSensor db p.zone m) (b : ℤ) : samplesAt db p.zone p.resolution m b = [] := by
  refine List.filter_eq_nil_iff.mpr fun r _ hr => ?_
  obtain ⟨-, s, hs, -, hzone, hactive, hmetric⟩ := of_decide_eq_true hr
  exact hnone ⟨s, hs, hzone, hactive, hmetric⟩

/-- The column of the samples. -/
def columnOf (db : Measured ι) (p : HistoryPrepared ι) (atMs : List ℤ) (m : MetricType) : Column where
  metric := m
  mean := atMs.map fun b => sqlAvg ((good (samplesAt db p.zone p.resolution m b)).map Sample.value)
  flaggedCount := atMs.map fun b => (flagged (samplesAt db p.zone p.resolution m b)).length

/-- **A column** says what the samples do. -/
theorem column_eq {g : Grid} (hw : 0 < g.widthMs) (hwindow : ∀ b ∈ g.atMs, p.w.fromMs ≤ b ∧ b < p.w.toMs)
    (hm : m ∈ p.metrics) :
    g.column m (pointsOf ((idsOf db p m).flatMap (rowsIn p.resolution db.telemetry p.w.fromMs p.w.toMs))) =
      columnOf db p g.atMs m := by
  have hcell : ∀ k (hk : k < g.n), (Series.place g.index g.n (pointsOf ((idsOf db p m).flatMap
      (rowsIn p.resolution db.telemetry p.w.fromMs p.w.toMs))))[k]? =
      some (if samplesAt db p.zone p.resolution m (g.start + k * g.widthMs) = [] then none
        else some (pointOf (g.start + k * g.widthMs,
          samplesAt db p.zone p.resolution m (g.start + k * g.widthMs)))) := by
    intro k hk
    have hmem : g.start + k * g.widthMs ∈ g.atMs := List.mem_map.mpr ⟨k, List.mem_range.mpr hk, rfl⟩
    have hindex : (fun q : HistoryPoint => decide (g.index q = some k)) =
        fun q => decide (q.atMs = g.start + k * g.widthMs) :=
      funext fun q => decide_eq_decide.mpr (index_eq_some hw hk)
    rw [getElem?_place hk, hindex, filter_pointsOf _ nodup_idsOf (hwindow _ hmem), ← samplesAt_eq hm]
    split_ifs <;> rfl
  have hlength : (Series.place g.index g.n (pointsOf ((idsOf db p m).flatMap
      (rowsIn p.resolution db.telemetry p.w.fromMs p.w.toMs)))).length = g.n := length_place _
  unfold Grid.column columnOf Grid.atMs
  simp only [List.map_map]
  congr 1
  · refine List.ext_getElem? fun k => ?_
    rw [List.getElem?_map, List.getElem?_map]
    by_cases hk : k < g.n
    · rw [hcell k hk, List.getElem?_range hk]
      simp only [Option.map_some, Function.comp_apply]
      split_ifs with hnil
      · rw [hnil]
        rfl
      · rfl
    · rw [List.getElem?_eq_none (by omega), List.getElem?_eq_none (by rw [List.length_range]; omega)]
      rfl
  · refine List.ext_getElem? fun k => ?_
    rw [List.getElem?_map, List.getElem?_map]
    by_cases hk : k < g.n
    · rw [hcell k hk, List.getElem?_range hk]
      simp only [Option.map_some, Function.comp_apply]
      split_ifs with hnil
      · rw [hnil]
        rfl
      · rfl
    · rw [List.getElem?_eq_none (by omega), List.getElem?_eq_none (by rw [List.length_range]; omega)]
      rfl

end Cells

/-! ## The draft -/

theorem filterMap_of {α β : Type} {f : α → Option β} {q : α → Bool} {h : α → β} : ∀ {l : List α},
    (∀ a ∈ l, f a = if q a then some (h a) else none) → l.filterMap f = (l.filter q).map h
  | [], _ => rfl
  | a :: l, hf => by
    have hrest := filterMap_of fun b hb => hf b (List.mem_cons_of_mem _ hb)
    rw [List.filterMap_cons, hf a List.mem_cons_self, List.filter_cons, hrest]
    split_ifs <;> rfl

theorem foldl_last {α : Type} (l : List (Option α)) (i : ℕ) :
    l.zipIdx.foldl (fun last v => if v.1.isSome then some v.2 else last) none = some i ↔
      (∃ v, l[i]? = some (some v)) ∧ ∀ (j : ℕ) (v : α), l[j]? = some (some v) → j ≤ i := by
  induction l using List.reverseRecOn with
  | nil => simp
  | append_singleton l x ih =>
    rw [List.zipIdx_append, List.foldl_append]
    cases x with
    | none =>
      have hget : ∀ (j : ℕ) (v : α), (l ++ [none])[j]? = some (some v) ↔ l[j]? = some (some v) := by
        intro j v
        rcases lt_or_ge j l.length with hj | hj
        · rw [List.getElem?_append_left hj]
        · rw [List.getElem?_append_right hj, List.getElem?_eq_none (l := l) hj]
          cases j - l.length <;> simp
      simpa [hget] using ih
    | some x =>
      have hlast : (l ++ [some x])[l.length]? = some (some x) := by simp
      have hle : ∀ (j : ℕ) (v : α), (l ++ [some x])[j]? = some (some v) → j ≤ l.length := by
        intro j v hj
        have hlt := (List.getElem?_eq_some_iff.mp hj).1
        rw [List.length_append, List.length_singleton] at hlt
        omega
      constructor
      · intro h
        have hi : l.length = i := by simpa using h
        subst hi
        exact ⟨⟨x, hlast⟩, hle⟩
      · rintro ⟨⟨v, hv⟩, hmax⟩
        have hi : i = l.length := le_antisymm (hle i v hv) (hmax _ _ hlast)
        simp [hi]

section Draft

variable {db : Measured ι} {p : HistoryPrepared ι}

omit [DecidableEq ι] in
theorem isSome_sqlAvg (samples : List (Sample ι)) :
    (sqlAvg (samples.map Sample.value)).isSome = decide (samples ≠ []) := by
  unfold sqlAvg
  by_cases hnil : samples = []
  · simp [hnil]
  · simp [hnil]

theorem present_columnOf (atMs : List ℤ) (m : MetricType) : (columnOf db p atMs m).present =
    atMs.countP fun b => good (samplesAt db p.zone p.resolution m b) ≠ [] := by
  unfold Column.present columnOf
  rw [List.countP_map]
  exact List.countP_congr fun b _ => by rw [Function.comp_apply, isSome_sqlAvg]

theorem isPartial_iff {good expected : ℕ} : isPartial good expected = true ↔ 100 * good < 95 * expected := by
  unfold isPartial
  rw [Bool.and_eq_true, decide_eq_true_eq, decide_eq_true_eq]
  constructor
  · rintro ⟨hpos, hless⟩
    have hpos' : (0 : ℚ) < expected := by exact_mod_cast hpos
    rw [div_lt_iff₀ hpos'] at hless
    have hmul : (100 : ℚ) * good < 95 * expected := by linarith
    exact_mod_cast hmul
  · intro hless
    have hpos : 0 < expected := by omega
    have hpos' : (0 : ℚ) < expected := by exact_mod_cast hpos
    refine ⟨hpos, ?_⟩
    rw [div_lt_iff₀ hpos']
    have hmul : (100 : ℚ) * good < 95 * expected := by exact_mod_cast hless
    linarith

/-- The last bucket with a mean. -/
theorem last_columnOf {atMs : List ℤ} (hsorted : atMs.Pairwise (· < ·)) (m : MetricType) (i : ℕ) :
    (columnOf db p atMs m).last = some i ↔ ∃ b, atMs[i]? = some b ∧
      good (samplesAt db p.zone p.resolution m b) ≠ [] ∧
      ∀ b' ∈ atMs, b < b' → good (samplesAt db p.zone p.resolution m b') = [] := by
  have hcell : ∀ j : ℕ, (∃ v, (columnOf db p atMs m).mean[j]? = some (some v)) ↔
      ∃ b, atMs[j]? = some b ∧ good (samplesAt db p.zone p.resolution m b) ≠ [] := by
    intro j
    have hget : (columnOf db p atMs m).mean[j]? = atMs[j]?.map fun b =>
        sqlAvg ((good (samplesAt db p.zone p.resolution m b)).map Sample.value) := List.getElem?_map
    rw [hget]
    constructor
    · rintro ⟨v, hv⟩
      obtain ⟨b, hb, havg⟩ := Option.map_eq_some_iff.mp hv
      have hsome := isSome_sqlAvg (good (samplesAt db p.zone p.resolution m b))
      rw [havg] at hsome
      exact ⟨b, hb, of_decide_eq_true hsome.symm⟩
    · rintro ⟨b, hb, hne⟩
      have hsome := isSome_sqlAvg (good (samplesAt db p.zone p.resolution m b))
      rw [decide_eq_true hne] at hsome
      obtain ⟨v, hv⟩ := Option.isSome_iff_exists.mp hsome
      exact ⟨v, by rw [hb, Option.map_some, hv]⟩
  unfold Column.last
  rw [foldl_last, hcell]
  constructor
  · rintro ⟨⟨b, hb, hne⟩, hmax⟩
    refine ⟨b, hb, hne, fun b' hb' hlt => ?_⟩
    by_contra hne'
    obtain ⟨j, hj⟩ := List.mem_iff_getElem?.mp hb'
    obtain ⟨v, hv⟩ := (hcell j).mpr ⟨b', hj, hne'⟩
    -- What is later comes later in the list.
    rcases lt_or_eq_of_le (hmax j v hv) with hji | rfl
    · obtain ⟨hil, rfl⟩ := List.getElem?_eq_some_iff.mp hb
      obtain ⟨hjl, rfl⟩ := List.getElem?_eq_some_iff.mp hj
      exact absurd (List.pairwise_iff_getElem.mp hsorted j i hjl hil hji) hlt.not_gt
    · exact absurd (Option.some.inj (hb.symm.trans hj)) hlt.ne
  · rintro ⟨b, hb, hne, hlast⟩
    refine ⟨⟨b, hb, hne⟩, fun j v hv => ?_⟩
    obtain ⟨b', hj, hne'⟩ := (hcell j).mp ⟨v, hv⟩
    by_contra hlt
    obtain ⟨hil, rfl⟩ := List.getElem?_eq_some_iff.mp hb
    obtain ⟨hjl, rfl⟩ := List.getElem?_eq_some_iff.mp hj
    exact hne' (hlast _ (List.getElem_mem hjl)
      (List.pairwise_iff_getElem.mp hsorted i j hil hjl (not_le.mp hlt)))

theorem exact_draft (db : Measured ι) {directory : List ι} {input : ZoneHistoryInput ι} {before : ℤ}
    (hp : prepare directory input before = .ok p) (now : ℤ) :
    Exact db p now (draft p (gridOf p.w p.resolution now)
      ((p.metrics.filter fun m => HasSensor db p.zone m).map
        (columnOf db p (gridOf p.w p.resolution now).atMs))
      (p.metrics.filter fun m => ¬ HasSensor db p.zone m)) := by
  have hsorted : (gridOf p.w p.resolution now).atMs.Pairwise (· < ·) := sorted_atMs (ms_pos p.resolution)
  have hlength : (gridOf p.w p.resolution now).atMs.length = (gridOf p.w p.resolution now).n := by
    rw [Grid.atMs, List.length_map, List.length_range]
  have hflagged : (((p.metrics.filter fun m => HasSensor db p.zone m).map
      (columnOf db p (gridOf p.w p.resolution now).atMs)).map fun c => c.flaggedCount.sum).sum =
      (p.metrics.map fun m => ((gridOf p.w p.resolution now).atMs.map fun b =>
        (flagged (samplesAt db p.zone p.resolution m b)).length).sum).sum := by
    rw [List.map_map, sum_map_filter]
    refine congrArg List.sum (List.map_congr_left fun m _ => ?_)
    by_cases hm : HasSensor db p.zone m
    · rw [if_pos (decide_eq_true hm)]
      rfl
    · rw [if_neg (by simpa using hm)]
      have hnone : ((gridOf p.w p.resolution now).atMs.map fun b =>
          (flagged (samplesAt db p.zone p.resolution m b)).length) =
            (gridOf p.w p.resolution now).atMs.map fun _ => 0 :=
        List.map_congr_left fun b _ => by rw [samplesAt_eq_nil hm]; rfl
      rw [hnone, List.map_const', List.sum_replicate, smul_zero]
  refine ⟨⟨hsorted, mem_atMs _ _ _⟩, length_atMs_le hp now, ?_, rfl, ?_, ?_, hflagged, ?_, ?_, fun m i => ?_⟩
  · simp only [draft, List.map_map]
    refine List.map_congr_left fun m _ => ?_
    simp only [Function.comp_apply, columnOf, List.map_map]
    rfl
  · simp only [draft, List.map_map]
    exact congrArg List.sum (List.map_congr_left fun m _ => present_columnOf _ m)
  · have hsplit := List.length_eq_length_filter_add (l := p.metrics) fun m => decide (HasSensor db p.zone m)
    have hnot : (p.metrics.filter fun m => ¬ HasSensor db p.zone m) =
        p.metrics.filter fun m => !decide (HasSensor db p.zone m) :=
      List.filter_congr fun m _ => by simp
    simp only [draft]
    rw [hlength, hnot, hsplit, Nat.add_sub_cancel]
  · simp only [draft, List.mem_append]
    have hany : (((p.metrics.filter fun m => HasSensor db p.zone m).map
        (columnOf db p (gridOf p.w p.resolution now).atMs)).any fun c =>
          isPartial c.present (gridOf p.w p.resolution now).n) = true ↔ ∃ m ∈ p.metrics, HasSensor db p.zone m ∧
        100 * (gridOf p.w p.resolution now).atMs.countP
          (fun b => good (samplesAt db p.zone p.resolution m b) ≠ []) <
            95 * (gridOf p.w p.resolution now).atMs.length := by
      rw [List.any_map, List.any_eq_true]
      constructor
      · rintro ⟨m, hm, hpartial⟩
        obtain ⟨hmem, hsensor⟩ := List.mem_filter.mp hm
        rw [Function.comp_apply, present_columnOf, isPartial_iff, ← hlength] at hpartial
        exact ⟨m, hmem, of_decide_eq_true hsensor, hpartial⟩
      · rintro ⟨m, hmem, hsensor, hpartial⟩
        refine ⟨m, List.mem_filter.mpr ⟨hmem, decide_eq_true hsensor⟩, ?_⟩
        rw [Function.comp_apply, present_columnOf, isPartial_iff, ← hlength]
        exact hpartial
    rw [← hany]
    split_ifs <;> simp_all
  · have hpos : 0 < (p.metrics.map fun m => ((gridOf p.w p.resolution now).atMs.map fun b =>
        (flagged (samplesAt db p.zone p.resolution m b)).length).sum).sum ↔
        ∃ m ∈ p.metrics, ∃ b ∈ (gridOf p.w p.resolution now).atMs,
          flagged (samplesAt db p.zone p.resolution m b) ≠ [] := by
      simp only [List.sum_pos_iff_exists_pos_nat, List.mem_map, exists_exists_and_eq_and, List.length_pos_iff]
    simp only [draft, List.mem_append]
    rw [hflagged, ← hpos]
    split_ifs <;> simp_all
  · simp only [draft, List.mem_filterMap, List.mem_map, List.mem_filter]
    rw [← last_columnOf hsorted m i]
    constructor
    · rintro ⟨c, ⟨m', ⟨hmem, -⟩, rfl⟩, hlast⟩
      obtain ⟨j, hj, heq⟩ := Option.map_eq_some_iff.mp hlast
      obtain ⟨rfl, rfl⟩ := Prod.mk.inj heq
      exact ⟨hmem, hj⟩
    · rintro ⟨hmem, hlast⟩
      refine ⟨_, ⟨m, ⟨hmem, decide_eq_true ?_⟩, rfl⟩, Option.map_eq_some_iff.mpr ⟨i, hlast, rfl⟩⟩
      obtain ⟨b, -, hne, -⟩ := (last_columnOf hsorted m i).mp hlast
      by_contra hnone
      exact hne (by rw [samplesAt_eq_nil hnone]; rfl)

/-- What the tool answers. -/
theorem execute_eq (db : Measured ι) {directory : List ι} {input : ZoneHistoryInput ι} {before : ℤ}
    (hp : prepare directory input before = .ok p) (now : ℤ) :
    execute db p now = .ok (draft p (gridOf p.w p.resolution now)
      ((p.metrics.filter fun m => HasSensor db p.zone m).map
        (columnOf db p (gridOf p.w p.resolution now).atMs))
      (p.metrics.filter fun m => ¬ HasSensor db p.zone m)) := by
  have hseries : ∀ m ∈ p.metrics, seriesOf db ⟨p.zone, p.metrics, p.resolution, p.w.fromMs, p.w.toMs⟩ m =
      if HasSensor db p.zone m then some (pointsOf ((idsOf db p m).flatMap
        (rowsIn p.resolution db.telemetry p.w.fromMs p.w.toMs))) else none := by
    intro m hm
    have hids : idsOf db p m = [] ↔ ¬ HasSensor db p.zone m := idsOf_eq_nil_iff hm
    unfold seriesOf
    by_cases hsensor : HasSensor db p.zone m
    · rw [if_pos hsensor]
      exact if_neg fun hnil => hids.mp hnil hsensor
    · rw [if_neg hsensor]
      exact if_pos (hids.mpr hsensor)
  have hwindow : ∀ b ∈ (gridOf p.w p.resolution now).atMs, p.w.fromMs ≤ b ∧ b < p.w.toMs := by
    intro b hb
    obtain ⟨⟨hfrom, hto⟩, -⟩ := (mem_atMs _ _ _ _).mp hb
    exact ⟨hfrom, hto.trans_le (min_le_left _ _)⟩
  have hcolumns : (p.metrics.filterMap fun m => (seriesOf db
      ⟨p.zone, p.metrics, p.resolution, p.w.fromMs, p.w.toMs⟩ m).map ((gridOf p.w p.resolution now).column m)) =
      (p.metrics.filter fun m => HasSensor db p.zone m).map
        (columnOf db p (gridOf p.w p.resolution now).atMs) := by
    refine filterMap_of fun m hm => ?_
    rw [hseries m hm]
    by_cases hsensor : HasSensor db p.zone m
    · rw [if_pos hsensor, if_pos (decide_eq_true hsensor), Option.map_some,
        column_eq (ms_pos p.resolution) hwindow hm]
    · rw [if_neg hsensor, if_neg (by simpa using hsensor)]
      rfl
  have hnone : (p.metrics.filter fun m => (seriesOf db
      ⟨p.zone, p.metrics, p.resolution, p.w.fromMs, p.w.toMs⟩ m).isNone) =
      p.metrics.filter fun m => ¬ HasSensor db p.zone m := by
    refine List.filter_congr fun m hm => ?_
    rw [hseries m hm]
    by_cases hsensor : HasSensor db p.zone m
    · simp [hsensor]
    · simp [hsensor]
  have hok := copilotZoneHistory_ok db (q := ⟨p.zone, p.metrics, p.resolution, p.w.fromMs, p.w.toMs⟩)
    (not_refused hp)
  simp only [execute, hok, Except.map, hcolumns, hnone]

/-- **The history of a zone.**  Of every window that the tool takes it answers with what the samples of the zone say. -/
theorem zone_history_exact (db : Measured ι) {directory : List ι} {input : ZoneHistoryInput ι} {before : ℤ}
    (hp : prepare directory input before = .ok p) (now : ℤ) :
    ∃ d, execute db p now = .ok d ∧ Exact db p now d :=
  ⟨_, execute_eq db hp now, exact_draft db hp now⟩

end Draft

namespace Example

def site : Measured ℕ where
  sensors :=
    [⟨1, none, some 7, .temperatureC, true⟩, ⟨2, none, some 7, .temperatureC, true⟩, ⟨3, none, some 7, .co2Ppm, false⟩]
  telemetry := [⟨0, 1, 20, 0⟩, ⟨60000, 2, 24, 0⟩, ⟨360000, 1, 99, 2⟩, ⟨60000, 3, 400, 0⟩]
  sensorIds := by decide

def input : ZoneHistoryInput ℕ := ⟨7, [.temperatureC, .co2Ppm], 0, 600000⟩

def asked : HistoryPrepared ℕ := ⟨7, ⟨0, 600000⟩, [.temperatureC, .co2Ppm], .fiveMinutes⟩

end Example

theorem zone_history_exact_site : ∃ d, execute Example.site Example.asked 600000 = .ok d ∧ d.noSensor = [.co2Ppm] ∧
    .FLAGGED_EXCLUDED ∈ d.caveats := by
  have hp : prepare [7] Example.input 600000 = .ok Example.asked := rfl
  obtain ⟨d, hd, hexact⟩ := zone_history_exact Example.site hp 600000
  have hmem : (300000 : ℤ) ∈ d.atMs := (hexact.axis.2 _).mpr ⟨by decide, by decide⟩
  have hflagged : flagged (samplesAt Example.site 7 .fiveMinutes .temperatureC 300000) ≠ [] :=
    List.ne_nil_of_length_pos (by decide)
  exact ⟨d, hd, hexact.noSensor.trans (by decide),
    hexact.flaggedCaveat.mpr ⟨.temperatureC, by decide, 300000, hmem, hflagged⟩⟩

end DTwin.Copilot.ZoneHistory
