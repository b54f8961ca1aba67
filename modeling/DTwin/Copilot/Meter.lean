import DTwin.Copilot.Evidence
import DTwin.Copilot.Windows
import DTwin.Db.Tables
import Mathlib.Algebra.Order.Field.Rat
import Mathlib.Data.Int.ConditionallyCompleteOrder
import Mathlib.Data.List.Flatten
import Mathlib.Tactic.Linarith

/-!
# DTwin.Copilot.Meter — consumption from a cumulative meter

`meterData` and `meter_consumption` of `apps/web/lib/copilot/tools/analyse.ts`, with `copilotMeterConsumption` of
`packages/db/src/queries/copilot.ts` and the hourly rollup of `016_rollups_exclude_flagged.sql`.  Times are in
milliseconds, numbers are exact, and the limits are the defaults.  The counter aggregates of the toolkit are a parameter
(`Toolkit`), and `Documented` is what their documentation says; so is the local day of an hour.  Both queries read the
same readings.
-/

namespace DTwin.Copilot.Meter

open Series
open Db.Tables (hourOf)

/-! ## The rollup -/

structure Reading where
  time : ℤ
  value : ℚ
  quality : ℕ

/-- The counter aggregates of the database toolkit: `C` is what `counter_agg` makes of readings. -/
structure Toolkit (C : Type) where
  counterAgg : List Reading → Option C
  rollup : List C → Option C
  delta : C → ℚ
  numResets : C → ℕ
  firstVal : C → ℚ
  lastVal : C → ℚ
  firstTime : C → ℤ
  lastTime : C → ℤ

/-- A row of `telemetry_1h`. -/
structure HourRow (C : Type) where
  bucket : ℤ
  counter : Option C

variable {C : Type}

/-- `counter_agg(time, value) FILTER (WHERE quality = 0)`. -/
def good (samples : List Reading) : List Reading := samples.filter fun r => r.quality = 0

def telemetry1h (tk : Toolkit C) (samples : List Reading) : List (HourRow C) :=
  (groups (fun r => hourOf r.time) samples).map fun g => ⟨g.1, tk.counterAgg (good g.2)⟩

/-! ## The query -/

inductive MeterType | electricMeter | waterMeter
deriving DecidableEq

inductive MeterUnit | kwh | m3
deriving DecidableEq

inductive Bucket | hour | localDay
deriving DecidableEq

structure MeterPoint where
  tag : String
  type : MeterType
  metric : String
deriving DecidableEq

structure MeterBucket where
  bucketStart : ℤ
  delta : Option ℚ
  resetsCount : ℕ
  hoursWithDataCount : ℕ
  firstReading : Option ℚ
  lastReading : Option ℚ
  firstAt : Option ℤ
  lastAt : Option ℤ
deriving DecidableEq

structure MeterRows where
  meter : MeterPoint
  unit : MeterUnit
  bucket : Bucket
  buckets : List MeterBucket
  totalResetsCount : ℕ
  totalHoursWithDataCount : ℕ
  total : Option ℚ

/-- One row of the first query; an aggregate takes no notice of nulls. -/
def Toolkit.bucketRow (tk : Toolkit C) (bucketStart : ℤ) (rows : List (HourRow C)) : MeterBucket :=
  let counters := rows.filterMap (·.counter)
  let counter := tk.rollup counters
  { bucketStart
    delta := counter.map tk.delta
    resetsCount := (counter.map tk.numResets).getD 0
    hoursWithDataCount := counters.length
    firstReading := counter.map tk.firstVal
    lastReading := counter.map tk.lastVal
    firstAt := counter.map tk.firstTime
    lastAt := counter.map tk.lastTime }

/-- The hours of the window. -/
def inWindow (fromMs toMs : ℤ) (rows : List (HourRow C)) : List (HourRow C) :=
  rows.filter fun a => fromMs ≤ a.bucket ∧ a.bucket < toMs

/-- `GROUP BY`: the hour itself, or the local day it starts in. -/
def bucketOf (localDay : ℤ → ℤ) : Bucket → ℤ → ℤ
  | .hour, hour => hour
  | .localDay, hour => localDay hour

/-- The rows of a meter whose readings are at hand. -/
def copilotMeterConsumption (tk : Toolkit C) (localDay : ℤ → ℤ) (meter : MeterPoint) (samples : List Reading)
    (fromMs toMs : ℤ) (bucket : Bucket) : MeterRows :=
  let hours := inWindow fromMs toMs (telemetry1h tk samples)
  let total := tk.bucketRow fromMs hours
  { meter
    unit := if meter.metric = "energy_kwh" then .kwh else .m3
    bucket
    buckets := (groups (fun a => bucketOf localDay bucket a.bucket) hours).map fun g => tk.bucketRow g.1 g.2
    totalResetsCount := total.resetsCount
    totalHoursWithDataCount := total.hoursWithDataCount
    total := total.delta }

/-! ## The answer -/

def SUSPECT_MEDIAN_MULTIPLE : ℚ := 5

/-- The median of the positive values. -/
def median (values : List ℚ) : Option ℚ :=
  let v := (values.filter (0 < ·)).insertionSort (· ≤ ·)
  let mid := v.length / 2
  if v.length % 2 = 1 then v[mid]?
  else (v[mid - 1]?).bind fun a => (v[mid]?).map fun b => (a + b) / 2

/-- The step from one bucket's last reading to the next one's first. -/
structure BetweenStep where
  fromAt : ℤ
  toAt : ℤ
  increment : ℚ
  reset : Bool
  suspect : Bool
deriving DecidableEq

/-- The readings of a bucket that holds some. -/
structure Read where
  first : ℚ
  last : ℚ
  firstAt : ℤ
  lastAt : ℤ

def MeterBucket.read? (b : MeterBucket) : Option Read :=
  match b.firstReading, b.lastReading, b.firstAt, b.lastAt with
  | some first, some last, some firstAt, some lastAt => some ⟨first, last, firstAt, lastAt⟩
  | _, _, _, _ => none

def betweenStep (med : Option ℚ) (prev next : Read) : BetweenStep :=
  let reset := decide (next.first < prev.last)
  let increment := if reset then next.first else next.first - prev.last
  let spanH := max 1 (((next.firstAt - prev.lastAt : ℤ) : ℚ) / 3600000)
  { fromAt := prev.lastAt
    toAt := next.firstAt
    increment
    reset
    suspect := reset || med.any fun m => decide (SUSPECT_MEDIAN_MULTIPLE * m < increment / spanH) }

/-- The hourly axis of a window. -/
structure Axis where
  fromMs : ℤ
  count : ℕ

/-- Where a bucket lands on it. -/
def Axis.index (axis : Axis) (b : MeterBucket) : Option ℕ :=
  let ms := b.bucketStart - axis.fromMs
  if ms % HOUR_MS = 0 ∧ 0 ≤ ms / HOUR_MS ∧ ms / HOUR_MS < axis.count then some (ms / HOUR_MS).toNat else none

/-- The buckets of the answer. -/
def placed : Option Axis → List MeterBucket → List (Option MeterBucket)
  | none, got => got.map some
  | some axis, got => Series.place axis.index axis.count got

/-- Implied demand. -/
def impliedOf (b : Option MeterBucket) : Option ℚ :=
  b.bind fun b => b.delta.bind fun d =>
    if 0 < b.hoursWithDataCount then some (d / (b.hoursWithDataCount : ℚ)) else none

def isSuspect (med : Option ℚ) (b : Option MeterBucket) : Bool :=
  b.any fun held => decide (0 < held.resetsCount) || med.any fun m => (impliedOf b).any fun i =>
    decide (SUSPECT_MEDIAN_MULTIPLE * m < i)

structure MeterColumns where
  bucketStart : Option (List ℤ)
  delta : List (Option ℚ)
  resetsCount : List ℕ
  hoursWithDataCount : List ℕ
  implied : List (Option ℚ)
  suspect : List Bool

structure MeterData where
  meter : MeterPoint
  unit : MeterUnit
  bucket : Bucket
  axis : Option Axis
  buckets : MeterColumns
  total : Option ℚ
  totalExcludingSuspect : Option ℚ
  betweenBuckets : ℚ
  totalResetsCount : ℕ
  totalHoursWithDataCount : ℕ
  resetOnBucketBoundary : Bool
  suspectBuckets : List ℤ
  suspectBetweenBuckets : List BetweenStep

/-- The delta of a cell, or null. -/
def deltaOf (b : Option MeterBucket) : Option ℚ := b.bind (·.delta)

/-- The steps between consecutive buckets that hold readings. -/
def betweenSteps (med : Option ℚ) (got : List MeterBucket) : List BetweenStep :=
  let read := got.filterMap (·.read?)
  read.zipWith (betweenStep med) read.tail

/-- The resets of the window are more than those of its buckets and of the steps between them. -/
def unplaced (rows : MeterRows) (between : List BetweenStep) : Bool :=
  decide ((rows.buckets.map (·.resetsCount)).sum + between.countP (·.reset) < rows.totalResetsCount)

/-- `meterData`: the figures, how many are suspect, and whether a reset is on a boundary. -/
def meterData (rows : MeterRows) (axis : Option Axis) : MeterData × ℕ × Bool :=
  let buckets := placed axis rows.buckets
  let implied := buckets.map impliedOf
  let med := median implied.reduceOption
  let suspect := buckets.map (isSuspect med)
  let between := betweenSteps med rows.buckets
  let boundary := unplaced rows between || decide (0 < between.countP (·.reset))
  let cleanSum := (buckets.map fun b => if isSuspect med b then 0 else (deltaOf b).getD 0).sum
  let cleanBetween := (between.map fun b => if b.suspect then 0 else b.increment).sum
  let anyClean := buckets.any fun b => !isSuspect med b && (deltaOf b).isSome
  let excluding := rows.total.bind fun _ =>
    if anyClean then some (if unplaced rows between then cleanSum else cleanSum + cleanBetween) else none
  let suspectBetween := between.filter (·.suspect)
  ({ meter := rows.meter
     unit := rows.unit
     bucket := rows.bucket
     axis
     buckets :=
      { bucketStart := match axis with
          | none => some (rows.buckets.map (·.bucketStart))
          | some _ => none
        delta := buckets.map deltaOf
        resetsCount := buckets.map fun b => (b.map (·.resetsCount)).getD 0
        hoursWithDataCount := buckets.map fun b => (b.map (·.hoursWithDataCount)).getD 0
        implied
        suspect }
     total := rows.total
     totalExcludingSuspect := excluding
     betweenBuckets := (between.map (·.increment)).sum
     totalResetsCount := rows.totalResetsCount
     totalHoursWithDataCount := rows.totalHoursWithDataCount
     resetOnBucketBoundary := boundary
     suspectBuckets := buckets.filterMap fun b => if isSuspect med b then b.map (·.bucketStart) else none
     suspectBetweenBuckets := suspectBetween },
    suspect.count true + suspectBetween.length, boundary)

/-! ## The tool -/

/-- `meterHourMaxWindowH` and `meterLocalDayMaxWindowH`. -/
def maxWindowH : Bucket → ℤ
  | .hour => 7 * 24
  | .localDay => 92 * 24

/-- `prepare`: both ends are on whole hours, and the window passes. -/
def prepare (fromMs toMs : ℤ) (bucket : Bucket) (now : ℤ) : Except WindowRefusal Window :=
  if fromMs % HOUR_MS ≠ 0 ∨ toMs % HOUR_MS ≠ 0 then .error .notOnWholeHour
  else checkWindow fromMs toMs (maxWindowH bucket) now

def axisOf (w : Window) (bucket : Bucket) (now : ℤ) : Option Axis :=
  match bucket with
  | .hour => some ⟨w.fromMs, bucketsIn w.fromMs (min w.toMs now) 3600⟩
  | .localDay => none

structure Draft where
  caveats : List CaveatId
  goodCount : ℕ
  expectedCount : ℕ
  data : MeterData

/-- `execute`; `meter` is the meter of the tag with the readings of its sensor, if there is one. -/
def execute (tk : Toolkit C) (localDay : ℤ → ℤ) (meter : Option (MeterPoint × List Reading)) (w : Window)
    (bucket : Bucket) (now : ℤ) : Option Draft :=
  meter.map fun (meter, samples) =>
    let res := copilotMeterConsumption tk localDay meter samples w.fromMs w.toMs bucket
    let (data, suspect, boundary) := meterData res (axisOf w bucket now)
    { caveats := (if 0 < suspect ∨ boundary then [.METER_SUSPECT_BUCKETS] else []) ++
        (if res.meter.type = .electricMeter then [.MAIN_VS_SUBMETERS_UNRECONCILED] else [])
      goodCount := res.totalHoursWithDataCount
      expectedCount := bucketsIn w.fromMs (min w.toMs now) 3600
      data }

/-! ## What the toolkit documents -/

/-- What a counter counted from one reading to the next: it restarts from zero. -/
def gain (a b : Reading) : ℚ := if b.value < a.value then b.value else b.value - a.value

/-- Whether it restarted. -/
def fell (a b : Reading) : ℕ := if b.value < a.value then 1 else 0

def InOrder (rs : List Reading) : Prop := rs.Pairwise fun a b => a.time < b.time

/-- `counter_agg`, `rollup` and the accessors, for readings in order. -/
structure Toolkit.Documented (tk : Toolkit C) : Prop where
  counterAgg_nil : tk.counterAgg [] = none
  counterAgg_isSome : ∀ {rs}, rs ≠ [] → (tk.counterAgg rs).isSome = true
  rollup_eq : ∀ {parts : List (List Reading)}, InOrder parts.flatten →
    tk.rollup (parts.filterMap tk.counterAgg) = tk.counterAgg parts.flatten
  delta_eq : ∀ {rs c}, InOrder rs → tk.counterAgg rs = some c → tk.delta c = steps gain rs
  numResets_eq : ∀ {rs c}, InOrder rs → tk.counterAgg rs = some c → tk.numResets c = steps fell rs
  first_eq : ∀ {rs c r}, InOrder rs → tk.counterAgg rs = some c → rs.head? = some r →
    tk.firstVal c = r.value ∧ tk.firstTime c = r.time
  last_eq : ∀ {rs c r}, InOrder rs → tk.counterAgg rs = some c → rs.getLast? = some r →
    tk.lastVal c = r.value ∧ tk.lastTime c = r.time

/-- The first and the last reading, as a row gives them. -/
def readOf (e : Reading × Reading) : Read := ⟨e.1.value, e.2.value, e.1.time, e.2.time⟩

/-- A row is about these readings. -/
structure Describes (b : MeterBucket) (rs : List Reading) : Prop where
  delta_eq : b.delta = if rs = [] then none else some (steps gain rs)
  resets_eq : b.resetsCount = steps fell rs
  read_eq : b.read? = (ends rs).map readOf

/-- The samples of an hour, and the row that the rollup has of them. -/
def toRow (tk : Toolkit C) (g : ℤ × List Reading) : HourRow C := ⟨g.1, tk.counterAgg (good g.2)⟩

theorem filterMap_counter (tk : Toolkit C) (hours : List (ℤ × List Reading)) :
    (hours.map (toRow tk)).filterMap (·.counter) = (hours.map fun g => good g.2).filterMap tk.counterAgg := by
  rw [List.filterMap_map, List.filterMap_map]
  rfl

/-- **A row of the query** is about the good readings of its hours. -/
theorem describes_bucketRow {tk : Toolkit C} (htk : tk.Documented) {hours : List (ℤ × List Reading)}
    (horder : InOrder (hours.map fun g => good g.2).flatten) (bucketStart : ℤ) :
    Describes (tk.bucketRow bucketStart (hours.map (toRow tk))) (hours.map fun g => good g.2).flatten := by
  have hcounter : tk.rollup ((hours.map (toRow tk)).filterMap (·.counter)) =
      tk.counterAgg (hours.map fun g => good g.2).flatten := by
    rw [filterMap_counter]
    exact htk.rollup_eq horder
  generalize hrs : (hours.map fun g => good g.2).flatten = rs at horder hcounter
  cases rs with
  | nil =>
    rw [htk.counterAgg_nil] at hcounter
    constructor
    · simp only [Toolkit.bucketRow, hcounter, Option.map_none, if_true]
    · simp only [Toolkit.bucketRow, hcounter, Option.map_none, Option.getD_none, steps_nil]
    · simp only [MeterBucket.read?, Toolkit.bucketRow, hcounter, Option.map_none]
      rfl
  | cons r rs =>
    obtain ⟨c, hc⟩ := Option.isSome_iff_exists.mp (htk.counterAgg_isSome (List.cons_ne_nil r rs))
    obtain ⟨hfirst, hfirst'⟩ := htk.first_eq horder hc rfl
    obtain ⟨hlast, hlast'⟩ := htk.last_eq horder hc (List.getLast?_eq_some_getLast (List.cons_ne_nil r rs))
    rw [hc] at hcounter
    constructor
    · rw [if_neg (List.cons_ne_nil r rs), ← htk.delta_eq horder hc]
      simp only [Toolkit.bucketRow, hcounter, Option.map_some]
    · rw [← htk.numResets_eq horder hc]
      simp only [Toolkit.bucketRow, hcounter, Option.map_some, Option.getD_some]
    · simp only [MeterBucket.read?, Toolkit.bucketRow, hcounter, Option.map_some, ends_cons, readOf, hfirst, hfirst',
        hlast, hlast']

/-! ## The hours and the buckets -/

/-- The hours of the window that have samples. -/
def hoursIn (samples : List Reading) (fromMs toMs : ℤ) : List (ℤ × List Reading) :=
  (groups (fun r => hourOf r.time) samples).filter fun g => fromMs ≤ g.1 ∧ g.1 < toMs

theorem inWindow_telemetry1h (tk : Toolkit C) (samples : List Reading) (fromMs toMs : ℤ) :
    inWindow fromMs toMs (telemetry1h tk samples) = (hoursIn samples fromMs toMs).map (toRow tk) := by
  unfold inWindow telemetry1h hoursIn
  rw [List.filter_map]
  rfl

theorem hourOf_mono {s t : ℤ} (h : s ≤ t) : hourOf s ≤ hourOf t := by
  unfold hourOf HOUR_MS
  omega

variable {samples : List Reading} {fromMs toMs : ℤ}

/-- The good readings of the window, hour by hour, are in order. -/
theorem inOrder_hoursIn (horder : InOrder samples) :
    InOrder ((hoursIn samples fromMs toMs).map fun g => good g.2).flatten := by
  have hsorted : samples.Pairwise fun a b => hourOf a.time ≤ hourOf b.time := horder.imp fun h => hourOf_mono h.le
  have hpieces : ((groups (fun r => hourOf r.time) samples).flatMap Prod.snd) = samples := groups_flatten hsorted
  have hwindow : (((hoursIn samples fromMs toMs).map Prod.snd).flatten).Sublist samples := by
    nth_rewrite 2 [← hpieces]
    exact ((List.filter_sublist).map Prod.snd).flatten
  have hgood : (((hoursIn samples fromMs toMs).map fun g => good g.2).flatten).Sublist
      (((hoursIn samples fromMs toMs).map Prod.snd).flatten) := by
    have hfilter : (((hoursIn samples fromMs toMs).map fun g => good g.2).flatten) =
        (((hoursIn samples fromMs toMs).map Prod.snd).flatten).filter fun r => r.quality = 0 := by
      rw [List.filter_flatten, List.map_map]
      rfl
    rw [hfilter]
    exact List.filter_sublist
  exact horder.sublist (hgood.trans hwindow)

/-- The hours of each bucket. -/
def bucketsOf (localDay : ℤ → ℤ) (bucket : Bucket) (samples : List Reading) (fromMs toMs : ℤ) :
    List (ℤ × List (ℤ × List Reading)) :=
  groups (fun g => bucketOf localDay bucket g.1) (hoursIn samples fromMs toMs)

theorem bucketOf_mono {localDay : ℤ → ℤ} (hday : Monotone localDay) (bucket : Bucket) :
    Monotone (bucketOf localDay bucket) := by
  cases bucket with
  | hour => exact monotone_id
  | localDay => exact hday

/-- **The buckets are the hours of the window**, in order. -/
theorem bucketsOf_flatten {localDay : ℤ → ℤ} (hday : Monotone localDay) (bucket : Bucket) :
    (bucketsOf localDay bucket samples fromMs toMs).flatMap Prod.snd = hoursIn samples fromMs toMs := by
  have hhours : (hoursIn samples fromMs toMs).Pairwise fun g g' => g.1 < g'.1 :=
    (groups_sorted _ samples).sublist List.filter_sublist
  exact groups_flatten (hhours.imp fun h => bucketOf_mono hday bucket h.le)

/-- The good readings of each bucket. -/
def partsOf (localDay : ℤ → ℤ) (bucket : Bucket) (samples : List Reading) (fromMs toMs : ℤ) : List (List Reading) :=
  (bucketsOf localDay bucket samples fromMs toMs).map fun b => (b.2.map fun g => good g.2).flatten

theorem partsOf_flatten {localDay : ℤ → ℤ} (hday : Monotone localDay) (bucket : Bucket) :
    (partsOf localDay bucket samples fromMs toMs).flatten =
      ((hoursIn samples fromMs toMs).map fun g => good g.2).flatten := by
  rw [← bucketsOf_flatten hday bucket, partsOf, List.flatMap_def, List.map_flatten, List.map_map, List.flatten_flatten,
    List.map_map]
  rfl

/-! ## The figures -/

/-- The rows are about the readings of a window, cut in buckets. -/
structure Told (rows : MeterRows) (parts : List (List Reading)) : Prop where
  each : List.Forall₂ Describes rows.buckets parts
  total_eq : rows.total = if parts.flatten = [] then none else some (steps gain parts.flatten)
  resets_eq : rows.totalResetsCount = steps fell parts.flatten

theorem query_buckets (tk : Toolkit C) (localDay : ℤ → ℤ) (meter : MeterPoint) (samples : List Reading)
    (fromMs toMs : ℤ) (bucket : Bucket) :
    (copilotMeterConsumption tk localDay meter samples fromMs toMs bucket).buckets =
      (bucketsOf localDay bucket samples fromMs toMs).map fun b => tk.bucketRow b.1 (b.2.map (toRow tk)) := by
  unfold copilotMeterConsumption bucketsOf
  simp only [inWindow_telemetry1h]
  rw [groups_map, List.map_map]
  rfl

/-- **The two queries** are about the same readings. -/
theorem told_query {tk : Toolkit C} (htk : tk.Documented) {localDay : ℤ → ℤ} (hday : Monotone localDay)
    (meter : MeterPoint) (horder : InOrder samples) (fromMs toMs : ℤ) (bucket : Bucket) :
    Told (copilotMeterConsumption tk localDay meter samples fromMs toMs bucket)
      (partsOf localDay bucket samples fromMs toMs) := by
  have hhours : InOrder ((hoursIn samples fromMs toMs).map fun g => good g.2).flatten := inOrder_hoursIn horder
  have hflatten : (partsOf localDay bucket samples fromMs toMs).flatten =
      ((hoursIn samples fromMs toMs).map fun g => good g.2).flatten := partsOf_flatten hday bucket
  have htotal := describes_bucketRow htk hhours fromMs
  refine ⟨?_, ?_, ?_⟩
  · rw [query_buckets, partsOf, List.forall₂_map_left_iff, List.forall₂_map_right_iff]
    refine List.forall₂_same.mpr fun b hb => describes_bucketRow htk ?_ b.1
    have hpart : ((b.2.map fun g => good g.2).flatten).Sublist
        (partsOf localDay bucket samples fromMs toMs).flatten :=
      List.sublist_flatten_of_mem (List.mem_map.mpr ⟨b, hb, rfl⟩)
    rw [hflatten] at hpart
    exact hhours.sublist hpart
  · rw [hflatten, ← htotal.delta_eq]
    simp only [copilotMeterConsumption, inWindow_telemetry1h]
  · rw [hflatten, ← htotal.resets_eq]
    simp only [copilotMeterConsumption, inWindow_telemetry1h]

section Figures

variable {rows : MeterRows} {parts : List (List Reading)}

theorem sum_delta {buckets : List MeterBucket} (h : List.Forall₂ Describes buckets parts) :
    (buckets.map fun b => b.delta.getD 0).sum = (parts.map (steps gain)).sum := by
  induction h with
  | nil => rfl
  | @cons b rs buckets parts hb _ ih =>
    have hdelta : b.delta.getD 0 = steps gain rs := by
      rw [hb.delta_eq]
      split_ifs with hnil
      · rw [hnil]
        rfl
      · rfl
    rw [List.map_cons, List.sum_cons, List.map_cons, List.sum_cons, hdelta, ih]

theorem sum_resets {buckets : List MeterBucket} (h : List.Forall₂ Describes buckets parts) :
    (buckets.map (·.resetsCount)).sum = (parts.map (steps fell)).sum := by
  induction h with
  | nil => rfl
  | cons hb _ ih => rw [List.map_cons, List.sum_cons, List.map_cons, List.sum_cons, hb.resets_eq, ih]

theorem filterMap_read {buckets : List MeterBucket} (h : List.Forall₂ Describes buckets parts) :
    buckets.filterMap (·.read?) = (parts.filterMap ends).map readOf := by
  induction h with
  | nil => rfl
  | @cons b rs buckets parts hb _ ih =>
    rw [List.filterMap_cons, hb.read_eq, List.filterMap_cons]
    cases ends rs with
    | none => exact ih
    | some e => rw [Option.map_some, List.map_cons, ih]

/-- The steps between the buckets, in terms of the readings. -/
theorem betweenSteps_eq {buckets : List MeterBucket} (h : List.Forall₂ Describes buckets parts) (med : Option ℚ) :
    betweenSteps med buckets =
      (parts.filterMap ends).zipWith (fun a b => betweenStep med (readOf a) (readOf b))
        (parts.filterMap ends).tail := by
  show ((buckets.filterMap (·.read?)).zipWith _ (buckets.filterMap (·.read?)).tail) = _
  rw [filterMap_read h, ← List.map_tail, List.zipWith_map]

theorem increment_eq (med : Option ℚ) (a b : Reading × Reading) :
    (betweenStep med (readOf a) (readOf b)).increment = gain a.2 b.1 := by
  by_cases hfell : b.1.value < a.2.value <;> simp [betweenStep, readOf, gain, hfell]

theorem reset_eq (med : Option ℚ) (a b : Reading × Reading) :
    (if (betweenStep med (readOf a) (readOf b)).reset = true then 1 else 0) = fell a.2 b.1 := by
  by_cases hfell : b.1.value < a.2.value <;> simp [betweenStep, readOf, fell, hfell]

theorem sum_increment {buckets : List MeterBucket} (h : List.Forall₂ Describes buckets parts) (med : Option ℚ) :
    ((betweenSteps med buckets).map (·.increment)).sum = steps (fun a b => gain a.2 b.1) (parts.filterMap ends) := by
  rw [betweenSteps_eq h, List.map_zipWith]
  simp only [increment_eq]
  rfl

theorem countP_eq_sum {γ : Type} (p : γ → Bool) : ∀ l : List γ, l.countP p = (l.map fun x => if p x then 1 else 0).sum
  | [] => rfl
  | x :: l => by
    rw [List.countP_cons, countP_eq_sum p l, List.map_cons, List.sum_cons, add_comm]

theorem countP_reset {buckets : List MeterBucket} (h : List.Forall₂ Describes buckets parts) (med : Option ℚ) :
    (betweenSteps med buckets).countP (·.reset) = steps (fun a b => fell a.2 b.1) (parts.filterMap ends) := by
  rw [countP_eq_sum, betweenSteps_eq h, List.map_zipWith]
  simp only [reset_eq]
  rfl

/-- **The window is its buckets and the steps between them.** -/
theorem Told.total (hT : Told rows parts) (med : Option ℚ) : rows.total.getD 0 =
    (rows.buckets.map fun b => b.delta.getD 0).sum + ((betweenSteps med rows.buckets).map (·.increment)).sum := by
  rw [sum_delta hT.each, sum_increment hT.each, ← steps_flatten, hT.total_eq]
  split_ifs with hnil
  · rw [hnil]
    rfl
  · rfl

theorem Told.resets (hT : Told rows parts) (med : Option ℚ) : rows.totalResetsCount =
    (rows.buckets.map (·.resetsCount)).sum + (betweenSteps med rows.buckets).countP (·.reset) := by
  rw [sum_resets hT.each, countP_reset hT.each, ← steps_flatten, hT.resets_eq]

/-- No reset is left without a place. -/
theorem Told.unplaced (hT : Told rows parts) (med : Option ℚ) :
    unplaced rows (betweenSteps med rows.buckets) = false := by
  rw [Meter.unplaced, ← hT.resets med]
  exact decide_eq_false (lt_irrefl _)

end Figures

/-! ## The axis -/

section OnAxis

variable {w : Window} {before now : ℤ} {bucket : Bucket}

/-- What `prepare` lets through. -/
theorem prepare_ok (hw : prepare fromMs toMs bucket before = .ok w) :
    w = ⟨fromMs, toMs⟩ ∧ fromMs % HOUR_MS = 0 ∧ toMs % HOUR_MS = 0 ∧ toMs ≤ before + FUTURE_TOLERANCE_S * 1000 := by
  unfold prepare checkWindow at hw
  split_ifs at hw with hhour hafter hfuture
  obtain ⟨hfrom, hto⟩ := not_or.mp hhour
  exact ⟨(Except.ok.inj hw).symm, not_not.mp hfrom, not_not.mp hto, not_lt.mp hfuture⟩

/-- An hour of the window that has begun is on the axis. -/
theorem index_hour {hour : ℤ} (hfrom : fromMs % HOUR_MS = 0) (hto : toMs % HOUR_MS = 0)
    (hfuture : toMs ≤ now + FUTURE_TOLERANCE_S * 1000) (hhour : hour % HOUR_MS = 0) (hin : fromMs ≤ hour ∧ hour < toMs)
    (hbegun : hour ≤ now) :
    (hour - fromMs) % HOUR_MS = 0 ∧ 0 ≤ (hour - fromMs) / HOUR_MS ∧
      (hour - fromMs) / HOUR_MS < (bucketsIn fromMs (min toMs now) 3600 : ℤ) := by
  rw [bucketsIn_eq _ _ (by decide)]
  unfold HOUR_MS at *
  unfold FUTURE_TOLERANCE_S at hfuture
  omega

/-- The hours of the window are whole ones, and have begun. -/
theorem hoursIn_spec (hpast : ∀ r ∈ samples, r.time ≤ now) {g : ℤ × List Reading}
    (hg : g ∈ hoursIn samples fromMs toMs) :
    g.1 % HOUR_MS = 0 ∧ (fromMs ≤ g.1 ∧ g.1 < toMs) ∧ g.1 ≤ now := by
  obtain ⟨hgroup, hin⟩ := List.mem_filter.mp hg
  have hin := of_decide_eq_true hin
  obtain ⟨k, hk, rfl⟩ := List.mem_map.mp hgroup
  rw [List.mem_insertionSort, List.mem_dedup] at hk
  obtain ⟨r, hr, rfl⟩ := List.mem_map.mp hk
  have htime := hpast r hr
  refine ⟨?_, hin, ?_⟩
  · unfold hourOf HOUR_MS
    omega
  · unfold hourOf HOUR_MS
    omega

theorem mem_hours {localDay : ℤ → ℤ} {b : ℤ × List (ℤ × List Reading)}
    (hb : b ∈ bucketsOf localDay .hour samples fromMs toMs) : ∃ g ∈ hoursIn samples fromMs toMs, g.1 = b.1 := by
  obtain ⟨k, hk, rfl⟩ := List.mem_map.mp hb
  rw [List.mem_insertionSort, List.mem_dedup] at hk
  exact List.mem_map.mp hk

theorem index_bucketRow (tk : Toolkit C) {localDay : ℤ → ℤ} (hw : prepare fromMs toMs .hour before = .ok w)
    (hclock : before ≤ now) (hpast : ∀ r ∈ samples, r.time ≤ now) {b : ℤ × List (ℤ × List Reading)}
    (hb : b ∈ bucketsOf localDay .hour samples fromMs toMs) (axis : Axis)
    (haxis : axisOf ⟨fromMs, toMs⟩ .hour now = some axis) : b.1 % HOUR_MS = 0 ∧ fromMs ≤ b.1 ∧
      (b.1 - fromMs) / HOUR_MS < axis.count ∧
      axis.index (tk.bucketRow b.1 (b.2.map (toRow tk))) = some ((b.1 - fromMs) / HOUR_MS).toNat := by
  obtain ⟨-, hfrom, hto, hfuture⟩ := prepare_ok hw
  obtain ⟨g, hg, hgb⟩ := mem_hours hb
  obtain ⟨hhour, hin, hbegun⟩ := hoursIn_spec hpast hg
  rw [hgb] at hhour hin hbegun
  obtain rfl := Option.some.inj haxis
  have hplace := index_hour hfrom hto (hfuture.trans (by omega)) hhour hin hbegun
  refine ⟨hhour, hin.1, hplace.2.2, ?_⟩
  exact if_pos hplace

/-- **Placing the buckets loses none**, and puts each at its hour. -/
theorem placed_query (tk : Toolkit C) {localDay : ℤ → ℤ} (meter : MeterPoint)
    (hw : prepare fromMs toMs bucket before = .ok w) (hclock : before ≤ now) (hpast : ∀ r ∈ samples, r.time ≤ now) :
    (placed (axisOf w bucket now)
      (copilotMeterConsumption tk localDay meter samples w.fromMs w.toMs bucket).buckets).reduceOption =
        (copilotMeterConsumption tk localDay meter samples w.fromMs w.toMs bucket).buckets := by
  obtain ⟨rfl, -⟩ := prepare_ok hw
  show (placed (axisOf ⟨fromMs, toMs⟩ bucket now)
      (copilotMeterConsumption tk localDay meter samples fromMs toMs bucket).buckets).reduceOption =
        (copilotMeterConsumption tk localDay meter samples fromMs toMs bucket).buckets
  rw [query_buckets]
  cases bucket with
  | localDay => simp [placed, axisOf, List.reduceOption, List.filterMap_map]
  | hour =>
    have hindex : ∀ b ∈ bucketsOf localDay .hour samples fromMs toMs, _ := fun b hb =>
      index_bucketRow tk hw hclock hpast hb _ rfl
    refine (reduceOption_place ?_ ?_).1
    · intro row hrow
      obtain ⟨b, hb, rfl⟩ := List.mem_map.mp hrow
      obtain ⟨hhour, hfrom, hlt, hplace⟩ := hindex b hb
      refine ⟨_, ?_, hplace⟩
      unfold HOUR_MS at *
      omega
    · rw [List.pairwise_map]
      refine (groups_sorted _ _).imp_of_mem fun {b b'} hb hb' hlt i j hi hj => ?_
      obtain ⟨hhour, hfrom, -, hplace⟩ := hindex b hb
      obtain ⟨hhour', hfrom', -, hplace'⟩ := hindex b' hb'
      obtain rfl := Option.some.inj (hplace.symm.trans hi)
      obtain rfl := Option.some.inj (hplace'.symm.trans hj)
      obtain ⟨-, hwhole, -⟩ := prepare_ok hw
      unfold HOUR_MS at *
      omega

/-- What is at an index of the axis is the bucket of that hour. -/
theorem placed_hour {axis : Axis} {got : List MeterBucket} {i : ℕ} {b : MeterBucket}
    (h : (placed (some axis) got)[i]? = some (some b)) : b.bucketStart = axis.fromMs + i * HOUR_MS := by
  have hindex := (mem_place h).2
  unfold Axis.index at hindex
  dsimp only at hindex
  split_ifs at hindex with hplace
  have hi := Option.some.inj hindex
  unfold HOUR_MS at *
  omega

end OnAxis

/-! ## Conservation -/

/-- The cells of an axis hold what was put there. -/
theorem sum_cells (d : MeterBucket → ℚ) (cells : List (Option MeterBucket)) :
    (cells.map fun b => (b.map d).getD 0).sum = (cells.reduceOption.map d).sum := by
  induction cells with
  | nil => rfl
  | cons b cells ih =>
    cases b with
    | none => simpa using ih
    | some b => simpa using ih

theorem sum_split {γ : Type} (p : γ → Bool) (d : γ → ℚ) (l : List γ) :
    (l.map fun x => if p x then 0 else d x).sum + (l.map fun x => if p x then d x else 0).sum = (l.map d).sum := by
  rw [← List.sum_map_add]
  congr 1
  refine List.map_congr_left fun x _ => ?_
  cases p x with
  | false => exact add_zero _
  | true => exact zero_add _

theorem sum_filter {γ : Type} (p : γ → Bool) (d : γ → ℚ) (l : List γ) :
    ((l.filter p).map d).sum = (l.map fun x => if p x then d x else 0).sum := by
  induction l with
  | nil => rfl
  | cons x l ih =>
    cases hp : p x with
    | false => simpa [hp] using ih
    | true => simpa [hp] using ih

/-- A step that went down is suspect. -/
theorem suspect_of_reset (med : Option ℚ) {got : List MeterBucket} {b : BetweenStep} (hb : b ∈ betweenSteps med got)
    (hreset : b.reset = true) : b.suspect = true := by
  unfold betweenSteps at hb
  dsimp only at hb
  rw [← List.map_uncurry_zip_eq_zipWith] at hb
  obtain ⟨⟨prev, next⟩, -, rfl⟩ := List.mem_map.mp hb
  exact Bool.or_eq_true_iff.mpr (Or.inl hreset)

/-- What the figures of an answer are to each other, and to the rows they are made from. -/
structure Conserved (rows : MeterRows) (data : MeterData) : Prop where
  total_eq : data.total.getD 0 = (data.buckets.delta.map (·.getD 0)).sum + data.betweenBuckets
  resets_eq : data.totalResetsCount = data.buckets.resetsCount.sum + data.suspectBetweenBuckets.countP (·.reset)
  boundary_eq : data.resetOnBucketBoundary = decide (0 < data.suspectBetweenBuckets.countP (·.reset))
  excluding_eq : (∃ c ∈ data.buckets.delta.zip data.buckets.suspect, c.1.isSome = true ∧ c.2 = false) →
    ∃ total excluding, data.total = some total ∧ data.totalExcludingSuspect = some excluding ∧
      excluding + ((data.buckets.delta.zip data.buckets.suspect).map fun c => if c.2 then c.1.getD 0 else 0).sum +
        (data.suspectBetweenBuckets.map (·.increment)).sum = total
  placed_eq : (placed data.axis rows.buckets).reduceOption = rows.buckets
  hour_eq : ∀ axis, data.axis = some axis → ∀ (i : ℕ) (b : MeterBucket),
    (placed data.axis rows.buckets)[i]? = some (some b) → b.bucketStart = axis.fromMs + i * HOUR_MS

section Conservation

variable {rows : MeterRows} {parts : List (List Reading)} {axis : Option Axis}

theorem countP_suspect (med : Option ℚ) (got : List MeterBucket) :
    ((betweenSteps med got).filter (·.suspect)).countP (·.reset) = (betweenSteps med got).countP (·.reset) := by
  rw [List.countP_filter]
  refine List.countP_congr fun b hb => ?_
  rw [Bool.and_eq_true]
  exact ⟨fun h => h.1, fun h => ⟨h, suspect_of_reset med hb h⟩⟩

/-- A bucket with a delta is about readings of the window. -/
theorem Told.total_isSome (hT : Told rows parts) {b : MeterBucket} (hb : b ∈ rows.buckets)
    (hdelta : b.delta.isSome = true) : ∃ total, rows.total = some total := by
  have hne : parts.flatten ≠ [] := by
    intro hnil
    have hall : ∀ (buckets : List MeterBucket) (parts : List (List Reading)), List.Forall₂ Describes buckets parts →
        parts.flatten = [] → ∀ b ∈ buckets, b.delta = none := by
      intro buckets parts h
      induction h with
      | nil => exact fun _ _ hb => nomatch hb
      | @cons b' rs buckets parts hb' _ ih =>
        intro hflat b hb
        obtain ⟨hrs, hparts⟩ := List.append_eq_nil_iff.mp (List.flatten_cons.symm.trans hflat)
        rcases List.mem_cons.mp hb with rfl | hb
        · rw [hb'.delta_eq, if_pos hrs]
        · exact ih hparts b hb
    rw [hall _ _ hT.each hnil b hb] at hdelta
    cases hdelta
  exact ⟨_, by rw [hT.total_eq, if_neg hne]⟩

theorem sum_placed (hplaced : (placed axis rows.buckets).reduceOption = rows.buckets) :
    ((placed axis rows.buckets).map fun b => (deltaOf b).getD 0).sum =
      (rows.buckets.map fun b => b.delta.getD 0).sum := by
  have hcells := sum_cells (fun b => b.delta.getD 0) (placed axis rows.buckets)
  rw [hplaced] at hcells
  rw [← hcells]
  congr 1
  refine List.map_congr_left fun b _ => ?_
  cases b <;> rfl

theorem resets_placed (hplaced : (placed axis rows.buckets).reduceOption = rows.buckets) :
    ((placed axis rows.buckets).map fun b => (b.map (·.resetsCount)).getD 0).sum =
      (rows.buckets.map (·.resetsCount)).sum := by
  nth_rewrite 2 [← hplaced]
  induction placed axis rows.buckets with
  | nil => rfl
  | cons b cells ih =>
    cases b with
    | none => simpa using ih
    | some b => simpa using ih

/-- What is clean and what is suspect make up the total. -/
theorem Told.clean (hT : Told rows parts) (hplaced : (placed axis rows.buckets).reduceOption = rows.buckets)
    (med : Option ℚ) {total : ℚ} (htotal : rows.total = some total) :
    ((placed axis rows.buckets).map fun b => if isSuspect med b then 0 else (deltaOf b).getD 0).sum +
        ((betweenSteps med rows.buckets).map fun b => if b.suspect then 0 else b.increment).sum +
        ((placed axis rows.buckets).map fun b => if isSuspect med b then (deltaOf b).getD 0 else 0).sum +
        (((betweenSteps med rows.buckets).filter (·.suspect)).map (·.increment)).sum = total := by
  have hsum := hT.total med
  have hcells := sum_split (isSuspect med) (fun b => (deltaOf b).getD 0) (placed axis rows.buckets)
  have hsteps := sum_split (·.suspect) (·.increment) (betweenSteps med rows.buckets)
  rw [htotal, Option.getD_some, ← sum_placed hplaced] at hsum
  rw [sum_filter]
  linarith

/-- A clean bucket with a delta: the total without suspects is given. -/
theorem excluding_eq (hT : Told rows parts) (hplaced : (placed axis rows.buckets).reduceOption = rows.buckets)
    {med : Option ℚ} {cell : Option MeterBucket} (hcell : cell ∈ placed axis rows.buckets)
    (hsome : (deltaOf cell).isSome = true) (hclean : isSuspect med cell = false) (x y : ℚ) :
    ∃ total, rows.total = some total ∧
      (rows.total.bind fun _ =>
        if ((placed axis rows.buckets).any fun b => !isSuspect med b && (deltaOf b).isSome) = true then
          some (if unplaced rows (betweenSteps med rows.buckets) = true then x else y) else none) = some y := by
  have hany : ((placed axis rows.buckets).any fun b => !isSuspect med b && (deltaOf b).isSome) = true := by
    refine List.any_eq_true.mpr ⟨cell, hcell, ?_⟩
    rw [Bool.and_eq_true, Bool.not_eq_true']
    exact ⟨hclean, hsome⟩
  obtain ⟨total, htotal⟩ : ∃ total, rows.total = some total := by
    cases cell with
    | none => cases hsome
    | some b =>
      have hb : b ∈ rows.buckets := by
        rw [← hplaced, List.reduceOption_mem_iff]
        exact hcell
      exact hT.total_isSome hb hsome
  refine ⟨total, htotal, ?_⟩
  rw [htotal, Option.bind_some, if_pos hany, hT.unplaced med]
  rfl

/-- **`meterData`**, on rows that are about readings and an axis that loses none. -/
theorem conserved_meterData (hT : Told rows parts) (hplaced : (placed axis rows.buckets).reduceOption = rows.buckets) :
    Conserved rows (meterData rows axis).1 := by
  let med := median ((placed axis rows.buckets).map impliedOf).reduceOption
  constructor
  · show rows.total.getD 0 = (((placed axis rows.buckets).map deltaOf).map (·.getD 0)).sum + _
    rw [List.map_map, hT.total med, ← sum_placed hplaced]
    rfl
  · show rows.totalResetsCount = ((placed axis rows.buckets).map fun b => (b.map (·.resetsCount)).getD 0).sum +
      ((betweenSteps med rows.buckets).filter (·.suspect)).countP (·.reset)
    rw [countP_suspect, hT.resets med, resets_placed hplaced]
  · show (unplaced rows (betweenSteps med rows.buckets) ||
        decide (0 < (betweenSteps med rows.buckets).countP (·.reset))) =
      decide (0 < ((betweenSteps med rows.buckets).filter (·.suspect)).countP (·.reset))
    rw [countP_suspect, hT.unplaced med, Bool.false_or]
  · have hzip : ((placed axis rows.buckets).map deltaOf).zip ((placed axis rows.buckets).map (isSuspect med)) =
        (placed axis rows.buckets).map fun b => (deltaOf b, isSuspect med b) := List.zip_map'
    rintro ⟨c, hc, hsome, hclean⟩
    have hc' : c ∈ (placed axis rows.buckets).map fun b => (deltaOf b, isSuspect med b) := hzip ▸ hc
    obtain ⟨cell, hcell, rfl⟩ := List.mem_map.mp hc'
    obtain ⟨total, htotal, hexcluding⟩ := excluding_eq hT hplaced hcell hsome hclean
      ((placed axis rows.buckets).map fun b => if isSuspect med b then 0 else (deltaOf b).getD 0).sum
      (((placed axis rows.buckets).map fun b => if isSuspect med b then 0 else (deltaOf b).getD 0).sum +
        ((betweenSteps med rows.buckets).map fun b => if b.suspect then 0 else b.increment).sum)
    refine ⟨total, _, htotal, hexcluding, ?_⟩
    show _ + ((((placed axis rows.buckets).map deltaOf).zip ((placed axis rows.buckets).map (isSuspect med))).map
      fun c => if c.2 = true then c.1.getD 0 else 0).sum +
      (((betweenSteps med rows.buckets).filter (·.suspect)).map (·.increment)).sum = total
    rw [hzip, List.map_map]
    exact hT.clean hplaced med htotal
  · exact hplaced
  · rintro axis' haxis i b hb
    have haxis : axis = some axis' := haxis
    subst haxis
    exact placed_hour hb

end Conservation

/-- **Consumption is conserved.**  For readings in order, not later than now, and a window that is let through: the
total is the deltas of the buckets and the steps between them, the resets are those of the buckets and the steps that
went down, the total without suspects and the suspects are the total, and no bucket is lost on the axis. -/
theorem meter_conserved {tk : Toolkit C} (htk : tk.Documented) {localDay : ℤ → ℤ} (hday : Monotone localDay)
    (meter : MeterPoint) {samples : List Reading} (horder : InOrder samples) {fromMs toMs before now : ℤ}
    {bucket : Bucket} {w : Window} (hw : prepare fromMs toMs bucket before = .ok w) (hclock : before ≤ now)
    (hpast : ∀ r ∈ samples, r.time ≤ now) {draft : Draft}
    (hdraft : execute tk localDay (some (meter, samples)) w bucket now = some draft) :
    Conserved (copilotMeterConsumption tk localDay meter samples w.fromMs w.toMs bucket) draft.data := by
  obtain rfl := Option.some.inj hdraft
  exact conserved_meterData (told_query htk hday meter horder w.fromMs w.toMs bucket)
    (placed_query tk meter hw hclock hpast)

/-- A toolkit whose aggregates are the readings themselves. -/
def plainToolkit : Toolkit (List Reading) where
  counterAgg rs := if rs.isEmpty then none else some rs
  rollup cs := if cs.flatten.isEmpty then none else some cs.flatten
  delta rs := steps gain rs
  numResets rs := steps fell rs
  firstVal rs := (rs.head?.map (·.value)).getD 0
  lastVal rs := (rs.getLast?.map (·.value)).getD 0
  firstTime rs := (rs.head?.map (·.time)).getD 0
  lastTime rs := (rs.getLast?.map (·.time)).getD 0

theorem plainToolkit_some {rs c : List Reading} (h : plainToolkit.counterAgg rs = some c) : rs = c := by
  unfold plainToolkit at h
  dsimp only at h
  split_ifs at h
  exact Option.some.inj h

theorem plainToolkit_flatten : ∀ parts : List (List Reading),
    (parts.filterMap plainToolkit.counterAgg).flatten = parts.flatten
  | [] => rfl
  | [] :: parts => plainToolkit_flatten parts
  | (r :: rs) :: parts => congrArg ((r :: rs) ++ ·) (plainToolkit_flatten parts)

theorem plainToolkit_documented : plainToolkit.Documented where
  counterAgg_nil := rfl
  counterAgg_isSome {rs} hne := by
    cases rs with
    | nil => exact absurd rfl hne
    | cons r rs => rfl
  rollup_eq {parts} _ := by
    show (if (parts.filterMap plainToolkit.counterAgg).flatten.isEmpty then none else some _) = _
    rw [plainToolkit_flatten]
    rfl
  delta_eq _ h := by rw [plainToolkit_some h]; rfl
  numResets_eq _ h := by rw [plainToolkit_some h]; rfl
  first_eq _ h hr := by
    rw [plainToolkit_some h] at hr
    simp [plainToolkit, hr]
  last_eq _ h hr := by
    rw [plainToolkit_some h] at hr
    simp [plainToolkit, hr]

def mainMeter : MeterPoint := ⟨"MTR-MAIN", .electricMeter, "energy_kwh"⟩

/-- Two hours, an hour without readings, and an hour after the counter restarted. -/
def resetSamples : List Reading :=
  [⟨60000, 100, 0⟩, ⟨3000000, 150, 0⟩, ⟨3660000, 152, 0⟩, ⟨5000000, 90, 2⟩, ⟨7000000, 200, 0⟩, ⟨10860000, 4, 0⟩,
    ⟨14000000, 60, 0⟩]

theorem resetSamples_inOrder : InOrder resetSamples := by
  unfold InOrder
  decide +kernel

theorem meter_conserved_resetSamples : ∃ draft,
    execute plainToolkit id (some (mainMeter, resetSamples)) ⟨0, 14400000⟩ .hour 14340000 = some draft ∧
      draft.data.total = some 160 ∧ draft.data.totalExcludingSuspect = some 156 ∧
      Conserved (copilotMeterConsumption plainToolkit id mainMeter resetSamples 0 14400000 .hour) draft.data := by
  have hw : prepare 0 14400000 .hour 14340000 = .ok ⟨0, 14400000⟩ := rfl
  exact ⟨_, rfl, by decide +kernel, by decide +kernel,
    meter_conserved plainToolkit_documented monotone_id mainMeter resetSamples_inOrder hw le_rfl
    (by decide +kernel) rfl⟩

end DTwin.Copilot.Meter
