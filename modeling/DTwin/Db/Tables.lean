import DTwin.Lib.Series
import DTwin.Types.Telemetry
import Mathlib.Algebra.Order.Field.Rat

/-!
# DTwin.Db.Tables — the tables that the queries share

Rows have the columns that some query reads.  An id is of a type `ι`, and a name of a type `τ`: where a query orders by
it, that is the database's order of texts.  Numbers are exact, and the tables are those that the tenant sees.
-/

namespace DTwin.Db.Tables

/-! ## Rows -/

structure Floor (ι τ : Type) where
  id : ι
  buildingId : ι
  level : ℤ
  name : τ
deriving DecidableEq

structure Zone (ι τ : Type) where
  id : ι
  floorId : ι
  name : τ
  areaM2 : Option ℚ
  thermalProfileId : Option ι
deriving DecidableEq

structure Sensor (ι : Type) where
  id : ι
  equipmentId : Option ι
  zoneId : Option ι
  metric : MetricType
  isActive : Bool

/-- The metrics of a zone that the copilot reads. -/
def COPILOT_ZONE_METRICS : List MetricType :=
  [.temperatureC, .humidityPct, .co2Ppm, .occupancyCount, .airflowCmh, .damperPositionPct, .setpointTempC]

/-- A row of `telemetry`; the time is in milliseconds. -/
structure Sample (ι : Type) where
  time : ℤ
  sensorId : ι
  value : ℚ
  quality : ℕ

/-! ## Tables, each `id` being a primary key -/

/-- The zones, each on a floor. -/
structure Places (ι τ : Type) where
  floors : List (Floor ι τ)
  zones : List (Zone ι τ)
  floorIds : (floors.map Floor.id).Nodup
  zoneIds : (zones.map Zone.id).Nodup
  zoneFloors : ∀ z ∈ zones, z.floorId ∈ floors.map Floor.id

structure Sensors (ι : Type) where
  sensors : List (Sensor ι)
  sensorIds : (sensors.map Sensor.id).Nodup

structure Measured (ι : Type) extends Sensors ι where
  telemetry : List (Sample ι)

/-! ## Joins, and aggregates, which take no notice of nulls -/

/-- `LEFT JOIN`: what matches, or one row of nulls. -/
def leftJoin {α : Type} (l : List α) : List (Option α) := if l = [] then [none] else l.map some

def sqlSum (values : List (Option ℚ)) : Option ℚ :=
  if values.reduceOption = [] then none else some values.reduceOption.sum

def sqlAvg (values : List ℚ) : Option ℚ := if values = [] then none else some (values.sum / values.length)

variable {ι : Type}

def good (samples : List (Sample ι)) : List (Sample ι) := samples.filter fun r => r.quality = 0

def flagged (samples : List (Sample ι)) : List (Sample ι) := samples.filter fun r => r.quality ≠ 0

/-! ## Hours -/

/-- `time_bucket(INTERVAL '1 hour', time)`. -/
def hourOf (time : ℤ) : ℤ := time / HOUR_MS * HOUR_MS

/-! ## Lemmas -/

theorem reduceOption_leftJoin {α : Type} (l : List α) : (leftJoin l).reduceOption = l := by
  unfold leftJoin
  split_ifs with hl
  · rw [hl]
    rfl
  · simp [List.reduceOption]

/-- What is joined to each row, without the rows of nulls. -/
theorem reduceOption_flatMap_leftJoin {α β : Type} (f : α → List β) (l : List α) :
    (l.flatMap fun a => leftJoin (f a)).reduceOption = l.flatMap f := by
  induction l with
  | nil => rfl
  | cons a l ih => rw [List.flatMap_cons, List.reduceOption_append, ih, reduceOption_leftJoin, List.flatMap_cons]

/-- The same, of the rows of a join of its own. -/
theorem reduceOption_elim_leftJoin {α β : Type} (f : α → List β) (l : List α) :
    ((leftJoin l).flatMap fun a => a.elim [none] fun a => leftJoin (f a)).reduceOption = l.flatMap f := by
  by_cases hl : l = []
  · simp [leftJoin, hl, List.reduceOption]
  · rw [leftJoin, if_neg hl, List.flatMap_map]
    exact reduceOption_flatMap_leftJoin f l

theorem reduceOption_bind {α : Type} (g : α → Option ℚ) : ∀ rows : List (Option α),
    (rows.map fun a => a.bind g).reduceOption = rows.reduceOption.filterMap g
  | [] => rfl
  | none :: rows => by
    rw [List.map_cons, List.reduceOption_cons_of_none, Option.bind_none, List.reduceOption_cons_of_none]
    exact reduceOption_bind g rows
  | some a :: rows => by
    have hrest := reduceOption_bind g rows
    cases hg : g a with
    | none => simpa [hg, List.reduceOption_cons_of_none, List.reduceOption_cons_of_some] using hrest
    | some v => simpa [hg, List.reduceOption_cons_of_some] using hrest

theorem sum_filterMap {α : Type} (w : α → Option ℚ) : ∀ rows : List α,
    (rows.filterMap w).sum = (rows.map fun a => (w a).getD 0).sum
  | [] => rfl
  | a :: rows => by
    have hrest := sum_filterMap w rows
    cases ha : w a with
    | none => simp [ha, hrest]
    | some v => simp [ha, hrest]

theorem sum_good_flagged (a b : Sample ι → ℚ) (l : List (Sample ι)) :
    (l.map fun r => if r.quality = 0 then a r else b r).sum = ((good l).map a).sum + ((flagged l).map b).sum := by
  induction l with
  | nil => simp [good, flagged]
  | cons r l ih =>
    by_cases hr : r.quality = 0
    · simp only [good, flagged] at ih
      simp [good, flagged, hr, ih, add_assoc]
    · simp only [good, flagged] at ih
      simp [good, flagged, hr, ih, add_left_comm]

theorem length_good_flagged (l : List (Sample ι)) : ((good l).length : ℚ) + (flagged l).length = l.length := by
  have hones := sum_good_flagged (fun _ => 1) (fun _ => 1) l
  simpa using hones.symm

end DTwin.Db.Tables
