import DTwin.Db.Tables
import DTwin.Lib.OrderedMap
import Mathlib.Algebra.BigOperators.Ring.Finset
import Mathlib.Algebra.Group.Action.Defs
import Mathlib.Algebra.Order.Floor.Ring
import Mathlib.Data.Int.ConditionallyCompleteOrder
import Mathlib.Data.Rat.Floor
import Mathlib.Tactic.Linarith
import Mathlib.Tactic.NormNum

/-!
# DTwin.Db.Energy — the energy of a building, grouped four ways

`copilotEnergyByEndUse` of `packages/db/src/queries/copilot.ts`.  Instants are in milliseconds, as `Date` has them, and
in microseconds where a statement tells them apart; numbers are exact.

By floor, by end use and by both, the rows are groups of one join.  By local day they are the dates of the window, to
which the buckets are joined by the instant at which their own date begins, and the expected buckets are those between
the instants at which the dates begin.  The two agree unless a bucket is on none of these dates, or on two of them, or
outside those instants (`groupings_agree_iff`).
-/

namespace DTwin.Db.Energy

open OrderedMap Series Tables

variable {ι : Type}

/-! ## The tables -/

structure Equipment (ι : Type) where
  id : ι
  equipmentType : String
  buildingId : ι
  floorId : Option ι

/-- A row of `telemetry_5m_t`, without the columns that the query does not read. -/
structure FiveMinutes (ι : Type) where
  sensorId : ι
  bucket : ℤ
  avgValue : Option ℚ
  badQualityCount : ℕ

/-- The tables; each `id` is a primary key. -/
structure Database (ι : Type) extends Sensors ι where
  equipment : List (Equipment ι)
  floors : List (Floor ι String)
  equipmentIds : (equipment.map Equipment.id).Nodup
  floorIds : (floors.map Floor.id).Nodup

/-- A row of `pts`. -/
structure Point (ι : Type) where
  id : ι
  endUse : String
  floor : Option (Floor ι String)

def Database.pointsOf [DecidableEq ι] (db : Database ι) (building : ι) (s : Sensor ι) : List (Point ι) :=
  (db.equipment.filter fun e => some e.id = s.equipmentId ∧ e.buildingId = building).flatMap fun e =>
    (leftJoin (db.floors.filter fun f => some f.id = e.floorId)).map fun f => ⟨s.id, e.equipmentType, f⟩

def Database.pts [DecidableEq ι] (db : Database ι) (building : ι) : List (Point ι) :=
  (db.sensors.filter fun s => s.metric = .powerKw ∧ s.isActive).flatMap (db.pointsOf building)

/-! ## Time -/

def DAY_US : ℤ := 86400000000

/-- A time zone: how far its clocks are ahead at an instant (in microseconds), and the instant that `AT TIME ZONE` takes
for the midnight of a date (in milliseconds). -/
structure TimeZone where
  offset : ℤ → ℤ
  midnight : ℤ → ℤ
  ordered : ∀ d, midnight d ≤ midnight (d + 1)
  /-- A midnight that clocks show is an instant at which they show it. -/
  reads : ∀ d t, t + offset t = d * DAY_US → 1000 * midnight d + offset (1000 * midnight d) = d * DAY_US

/-- The local date of an instant, in days. -/
def TimeZone.date (tz : TimeZone) (t : ℤ) : ℤ := (t + tz.offset t) / DAY_US

/-- `time_bucket(INTERVAL '1 day', bucket, timezone)`. -/
def TimeZone.timeBucket (tz : TimeZone) (bucket : ℤ) : ℤ := tz.midnight (tz.date (1000 * bucket))

def bucketStartsIn (fromMs toMs widthS : ℤ) : ℤ :=
  max 0 (⌈(toMs : ℚ) / (widthS * 1000)⌉ - ⌈(fromMs : ℚ) / (widthS * 1000)⌉)

def expectedUpToNow (fromMs toMs widthS now : ℤ) : ℤ :=
  bucketStartsIn fromMs (if now < toMs then now else toMs) widthS

/-! ## The query -/

inductive EnergyGroupBy | floor | endUse | floorEndUse | localDay
deriving DecidableEq

structure Query (ι : Type) where
  fromMs : ℤ
  toMs : ℤ
  timezone : TimeZone
  buildingId : ι

def BUILDING_PLANT : String := "building plant"

/-- What the rows of all groupings have. -/
structure Figures where
  energyKwh : Option ℚ
  sensorsCount : ℕ
  goodBucketsCount : ℕ
  expectedBucketsCount : ℤ
  flaggedSamplesCount : ℚ

structure EnergyRow extends Figures where
  floor : Option String
  level : Option ℤ
  endUse : Option String

structure EnergyDayRow extends Figures where
  day : ℤ
  dayStart : ℤ
  dayEnd : ℤ

inductive EnergyRows
  | grouped (rows : List EnergyRow)
  | days (rows : List EnergyDayRow)

def EnergyRows.figures : EnergyRows → List Figures
  | .grouped rows => rows.map EnergyRow.toFigures
  | .days rows => rows.map EnergyDayRow.toFigures

/-- `sum(a.avg_value * 5 / 60.0)`. -/
def energyKwh (rows : List (Option (FiveMinutes ι))) : Option ℚ :=
  sqlSum (rows.map fun a => a.bind fun a => a.avgValue.map fun v => v * 5 / 60)

/-- `count(a.avg_value)`. -/
def good (rows : List (Option (FiveMinutes ι))) : ℕ :=
  (rows.map fun a => a.bind FiveMinutes.avgValue).reduceOption.length

/-- `sum(a.bad_quality_count)`. -/
def flagged (rows : List (Option (FiveMinutes ι))) : Option ℚ :=
  sqlSum (rows.map fun a => a.map fun a => (a.badQualityCount : ℚ))

section Query

variable [DecidableEq ι] (db : Database ι) (telemetry : List (FiveMinutes ι)) (q : Query ι)

/-- The buckets of a point that start in the window. -/
def Query.buckets (p : Point ι) : List (FiveMinutes ι) :=
  telemetry.filter fun a => a.sensorId = p.id ∧ q.fromMs ≤ a.bucket ∧ a.bucket < q.toMs

/-- `pts p LEFT JOIN telemetry_5m_t a`. -/
def Query.leftJoined : List (Point ι × Option (FiveMinutes ι)) :=
  (db.pts q.buildingId).flatMap fun p => (leftJoin (q.buckets telemetry p)).map fun a => (p, a)

/-- `pts p JOIN telemetry_5m_t a`. -/
def Query.joined : List (FiveMinutes ι) := (db.pts q.buildingId).flatMap (q.buckets telemetry)

abbrev Key := Option String × Option ℤ × Option String

/-- The columns that are grouped by: the floor and its level, the end use. -/
def keyOf (byFloor byUse : Bool) (p : Point ι) : Key :=
  (if byFloor then some ((p.floor.map Floor.name).getD BUILDING_PLANT) else none,
    if byFloor then p.floor.map Floor.level else none, if byUse then some p.endUse else none)

def Query.energyRow (now : ℤ) (g : Key × List (Point ι × Option (FiveMinutes ι))) : EnergyRow where
  floor := g.1.1
  level := g.1.2.1
  endUse := g.1.2.2
  energyKwh := energyKwh (g.2.map Prod.snd)
  sensorsCount := (g.2.map fun r => r.1.id).dedup.length
  goodBucketsCount := good (g.2.map Prod.snd)
  expectedBucketsCount := (g.2.map fun r => r.1.id).dedup.length * expectedUpToNow q.fromMs q.toMs 300 now
  flaggedSamplesCount := (flagged (g.2.map Prod.snd)).getD 0

/-- By floor, end use or both; `le` is the order of the statement. -/
def Query.groupedRows (le : Key → Key → Bool) (byFloor byUse : Bool) (now : ℤ) : List EnergyRow :=
  ((groupBy (fun r => keyOf byFloor byUse r.1) (q.leftJoined db telemetry)).entries.map
    (q.energyRow now)).insertionSort fun r r' => le (r.floor, r.level, r.endUse) (r'.floor, r'.level, r'.endUse)

def Query.firstDay : ℤ := q.timezone.date (1000 * q.fromMs)

/-- The date of the last microsecond. -/
def Query.lastDay : ℤ := q.timezone.date (1000 * q.toMs - 1)

/-- `generate_series`. -/
def Query.dates : List ℤ := (List.range (q.lastDay - q.firstDay + 1).toNat).map fun i : ℕ => q.firstDay + i

/-- A row of `agg`: the buckets that begin on the date that begins there. -/
def Query.agg (dayStart : ℤ) : Option (List (FiveMinutes ι)) :=
  (groupBy (fun a => q.timezone.timeBucket a.bucket) (q.joined db telemetry)).get? dayStart

def Query.dayRow (now d : ℤ) : EnergyDayRow where
  day := d
  dayStart := q.timezone.midnight d
  dayEnd := q.timezone.midnight (d + 1)
  energyKwh := (q.agg db telemetry (q.timezone.midnight d)).bind fun rows => energyKwh (rows.map some)
  sensorsCount := (db.pts q.buildingId).length
  goodBucketsCount := ((q.agg db telemetry (q.timezone.midnight d)).map fun rows => good (rows.map some)).getD 0
  expectedBucketsCount := (db.pts q.buildingId).length * expectedUpToNow (max q.fromMs (q.timezone.midnight d))
    (min q.toMs (q.timezone.midnight (d + 1))) 300 now
  flaggedSamplesCount := ((q.agg db telemetry (q.timezone.midnight d)).bind fun rows => flagged (rows.map some)).getD 0

def copilotEnergyByEndUse (le : Key → Key → Bool) (now : ℤ) : EnergyGroupBy → EnergyRows
  | .localDay => .days (q.dates.map (q.dayRow db telemetry now))
  | .floor => .grouped (q.groupedRows db telemetry le true false now)
  | .endUse => .grouped (q.groupedRows db telemetry le false true now)
  | .floorEndUse => .grouped (q.groupedRows db telemetry le true true now)

end Query

/-- The sums over the rows, nulls counted as zero. -/
structure Totals where
  energyKwh : ℚ
  goodBucketsCount : ℕ
  expectedBucketsCount : ℤ
  flaggedSamplesCount : ℚ

def totals (rows : EnergyRows) : Totals where
  energyKwh := (rows.figures.map fun f => f.energyKwh.getD 0).sum
  goodBucketsCount := (rows.figures.map Figures.goodBucketsCount).sum
  expectedBucketsCount := (rows.figures.map Figures.expectedBucketsCount).sum
  flaggedSamplesCount := (rows.figures.map Figures.flaggedSamplesCount).sum

/-- A bucket of the window: its own date begins with exactly one of the dates of the window; and if it is expected by
now, it is between the beginning of the first of them and the end of the last. -/
def Query.Placed (q : Query ι) (now b : ℤ) : Prop :=
  (q.dates.map q.timezone.midnight).count (q.timezone.timeBucket b) = 1 ∧
    (b < now → q.timezone.midnight q.firstDay ≤ b ∧ b < q.timezone.midnight (q.lastDay + 1))

/-! ## What a bucket adds -/

def FiveMinutes.energy (a : FiveMinutes ι) : ℚ := (a.avgValue.map fun v => v * 5 / 60).getD 0

def FiveMinutes.goodCount (a : FiveMinutes ι) : ℕ := if a.avgValue.isSome then 1 else 0

/-- What the rows of a join add up to; a row of nulls adds nothing. -/
def addUp {M : Type} [AddCommMonoid M] (f : FiveMinutes ι → M) (rows : List (Option (FiveMinutes ι))) : M :=
  (rows.map fun a => (a.map f).getD 0).sum

theorem getD_sqlSum (values : List (Option ℚ)) : (sqlSum values).getD 0 = (values.map fun v => v.getD 0).sum := by
  have hsum : values.reduceOption.sum = (values.map fun v => v.getD 0).sum := by
    induction values with
    | nil => rfl
    | cons v values ih =>
      rcases v with - | v
      · rw [List.reduceOption_cons_of_none, ih]
        simp
      · rw [List.reduceOption_cons_of_some, List.sum_cons, ih]
        simp
  unfold sqlSum
  split_ifs with hnil
  · rw [← hsum, hnil]
    rfl
  · exact hsum

theorem getD_energyKwh (rows : List (Option (FiveMinutes ι))) :
    (energyKwh rows).getD 0 = addUp FiveMinutes.energy rows := by
  rw [energyKwh, getD_sqlSum, List.map_map]
  refine congrArg List.sum (List.map_congr_left fun a _ => ?_)
  rcases a with - | a
  · rfl
  · rfl

theorem good_eq (rows : List (Option (FiveMinutes ι))) : good rows = addUp FiveMinutes.goodCount rows := by
  unfold good addUp
  induction rows with
  | nil => rfl
  | cons a rows ih =>
    rw [List.map_cons, List.map_cons, List.sum_cons, ← ih]
    rcases a with - | ⟨id, b, - | v, n⟩
    · simp [List.reduceOption_cons_of_none]
    · simp [List.reduceOption_cons_of_none, FiveMinutes.goodCount]
    · simp [List.reduceOption_cons_of_some, FiveMinutes.goodCount, Nat.add_comm]

theorem getD_flagged (rows : List (Option (FiveMinutes ι))) :
    (flagged rows).getD 0 = addUp (fun a => (a.badQualityCount : ℚ)) rows := by
  rw [flagged, getD_sqlSum, List.map_map]
  rfl

section Sums

variable {M : Type} [AddCommMonoid M] (f : FiveMinutes ι → M)

theorem addUp_map_some (l : List (FiveMinutes ι)) : addUp f (l.map some) = (l.map f).sum := by
  rw [addUp, List.map_map]
  rfl

theorem addUp_leftJoin (l : List (FiveMinutes ι)) : addUp f (leftJoin l) = (l.map f).sum := by
  unfold leftJoin
  split_ifs with hnil
  · rw [hnil]
    simp [addUp]
  · exact addUp_map_some f l

end Sums

/-! ## The points -/

section Points

variable {α κ : Type}

theorem length_leftJoin {l : List α} (hl : l.length ≤ 1) : (leftJoin l).length = 1 := by
  unfold leftJoin
  split_ifs with hnil
  · rfl
  · have hpos := List.length_pos_iff.mpr hnil
    rw [List.length_map]
    omega

end Points

section Joins

variable [DecidableEq ι] (db : Database ι) (telemetry : List (FiveMinutes ι)) (q : Query ι)

theorem id_of_mem_pointsOf {building : ι} {s : Sensor ι} {p : Point ι} (hp : p ∈ db.pointsOf building s) :
    p.id = s.id := by
  obtain ⟨e, -, hfloor⟩ := List.mem_flatMap.mp hp
  obtain ⟨f, -, rfl⟩ := List.mem_map.mp hfloor
  rfl

/-- A sensor is one point at most: it has one machine, which is on one floor or on none. -/
theorem length_pointsOf (building : ι) (s : Sensor ι) : (db.pointsOf building s).length ≤ 1 := by
  have hequipment := length_filter_le_one db.equipmentIds
    (p := fun e => decide (some e.id = s.equipmentId ∧ e.buildingId = building)) (by
      intro a b ha hb
      have hsame := (of_decide_eq_true ha).1.trans (of_decide_eq_true hb).1.symm
      exact Option.some.inj hsame)
  have hfloors : ∀ e : Equipment ι, (db.floors.filter fun f => some f.id = e.floorId).length ≤ 1 := by
    intro e
    refine length_filter_le_one db.floorIds fun a b ha hb => ?_
    exact Option.some.inj ((of_decide_eq_true ha).trans (of_decide_eq_true hb).symm)
  unfold Database.pointsOf
  rcases hmachine : db.equipment.filter fun e => decide (some e.id = s.equipmentId ∧ e.buildingId = building) with
    - | ⟨e, - | ⟨e', rest⟩⟩
  · rw [hmachine]
    exact Nat.zero_le 1
  · rw [hmachine, List.flatMap_singleton, List.length_map, length_leftJoin (hfloors e)]
  · rw [hmachine] at hequipment
    exact absurd hequipment (by simp)

/-- **A point stands for a sensor**, once. -/
theorem nodup_pts (building : ι) : ((db.pts building).map Point.id).Nodup := by
  have hsensors : ((db.sensors.filter fun s => s.metric = .powerKw ∧ s.isActive).map Sensor.id).Nodup :=
    db.sensorIds.sublist (List.filter_sublist.map Sensor.id)
  unfold Database.pts
  rw [List.map_flatMap, List.nodup_flatMap]
  constructor
  · intro s _
    have hone := length_pointsOf db building s
    rcases hpoints : db.pointsOf building s with - | ⟨p, - | ⟨p', rest⟩⟩
    · exact List.nodup_nil
    · exact List.nodup_singleton p.id
    · rw [hpoints] at hone
      exact absurd hone (by simp)
  · refine (List.pairwise_map.mp hsensors).imp fun {s s'} hne => ?_
    intro id hid hid'
    obtain ⟨p, hp, rfl⟩ := List.mem_map.mp hid
    obtain ⟨p', hp', hsame⟩ := List.mem_map.mp hid'
    rw [id_of_mem_pointsOf db hp, id_of_mem_pointsOf db hp'] at hsame
    exact hne hsame.symm

theorem mem_joined {a : FiveMinutes ι} (ha : a ∈ q.joined db telemetry) :
    a ∈ telemetry ∧ q.fromMs ≤ a.bucket ∧ a.bucket < q.toMs := by
  obtain ⟨p, -, ha⟩ := List.mem_flatMap.mp ha
  obtain ⟨hmem, hselected⟩ := List.mem_filter.mp ha
  exact ⟨hmem, (of_decide_eq_true hselected).2⟩

/-- **The groups of the points** have what the join has, whatever they are grouped by. -/
theorem sum_groupedRows {M : Type} [AddCommMonoid M] (f : FiveMinutes ι → M) (key : Point ι → Key) :
    ((groupBy (fun r => key r.1) (q.leftJoined db telemetry)).entries.map fun g => addUp f (g.2.map Prod.snd)).sum =
      ((q.joined db telemetry).map f).sum := by
  have hrow : ∀ g : Key × List (Point ι × Option (FiveMinutes ι)),
      addUp f (g.2.map Prod.snd) = (g.2.map fun r => (r.2.map f).getD 0).sum := by
    intro g
    rw [addUp, List.map_map]
    rfl
  rw [List.map_congr_left fun g _ => hrow g, sum_groupBy]
  unfold Query.leftJoined Query.joined
  induction db.pts q.buildingId with
  | nil => rfl
  | cons p pts ih =>
    rw [List.flatMap_cons, List.flatMap_cons, List.map_append, List.map_append, List.sum_append, List.sum_append, ih,
      ← addUp_leftJoin f (q.buckets telemetry p), addUp, List.map_map]
    rfl

theorem mem_leftJoined {p : Point ι} {a : Option (FiveMinutes ι)} (h : (p, a) ∈ q.leftJoined db telemetry) :
    p ∈ db.pts q.buildingId := by
  obtain ⟨p', hp', hrow⟩ := List.mem_flatMap.mp h
  obtain ⟨a', -, heq⟩ := List.mem_map.mp hrow
  obtain ⟨rfl, -⟩ := Prod.mk.inj heq
  exact hp'

theorem exists_leftJoined {p : Point ι} (hp : p ∈ db.pts q.buildingId) : ∃ a, (p, a) ∈ q.leftJoined db telemetry := by
  have hne : leftJoin (q.buckets telemetry p) ≠ [] := by
    unfold leftJoin
    split_ifs with hnil
    · exact List.cons_ne_nil _ _
    · simpa using hnil
  obtain ⟨a, ha⟩ := List.exists_mem_of_ne_nil _ hne
  exact ⟨a, List.mem_flatMap.mpr ⟨p, hp, List.mem_map.mpr ⟨a, ha, rfl⟩⟩⟩

/-- **The sensors of the groups** are those of the points, each in the group of its floor and end use. -/
theorem sum_sensors (key : Point ι → Key) :
    ((groupBy (fun r => key r.1) (q.leftJoined db telemetry)).entries.map fun g =>
      (g.2.map fun r => r.1.id).dedup.length).sum = (db.pts q.buildingId).length := by
  have hperm : ((groupBy (fun r => key r.1) (q.leftJoined db telemetry)).entries.flatMap fun g =>
      (g.2.map fun r => r.1.id).dedup).Perm ((db.pts q.buildingId).map Point.id) := by
    refine (List.perm_ext_iff_of_nodup ?_ (nodup_pts db q.buildingId)).mpr fun id => ?_
    · rw [List.nodup_flatMap]
      refine ⟨fun g _ => List.nodup_dedup _, ?_⟩
      refine (List.pairwise_map.mp (groupBy (fun r => key r.1) (q.leftJoined db telemetry)).nodup).imp_of_mem
        fun {g g'} hg hg' hne => ?_
      intro id hid hid'
      obtain ⟨r, hr, hrid⟩ := List.mem_map.mp (List.mem_dedup.mp hid)
      obtain ⟨r', hr', hrid'⟩ := List.mem_map.mp (List.mem_dedup.mp hid')
      rw [(eq_of_mem_groupBy hg).1] at hr
      rw [(eq_of_mem_groupBy hg').1] at hr'
      obtain ⟨hmem, hkey⟩ := List.mem_filter.mp hr
      obtain ⟨hmem', hkey'⟩ := List.mem_filter.mp hr'
      have hpoint : r.1 = r'.1 := List.inj_on_of_nodup_map (nodup_pts db q.buildingId)
        (mem_leftJoined db telemetry q hmem) (mem_leftJoined db telemetry q hmem') (hrid.trans hrid'.symm)
      apply hne
      rw [← of_decide_eq_true hkey, ← of_decide_eq_true hkey', hpoint]
    · constructor
      · intro hid
        obtain ⟨g, hg, hid⟩ := List.mem_flatMap.mp hid
        obtain ⟨r, hr, rfl⟩ := List.mem_map.mp (List.mem_dedup.mp hid)
        rw [(eq_of_mem_groupBy hg).1] at hr
        exact List.mem_map.mpr ⟨r.1, mem_leftJoined db telemetry q (List.mem_filter.mp hr).1, rfl⟩
      · intro hid
        obtain ⟨p, hp, rfl⟩ := List.mem_map.mp hid
        obtain ⟨a, ha⟩ := exists_leftJoined db telemetry q hp
        obtain ⟨g, hg, hr⟩ := List.mem_flatMap.mp
          ((flatMap_groupBy (fun r => key r.1) (q.leftJoined db telemetry)).mem_iff.mpr ha)
        exact List.mem_flatMap.mpr ⟨g, hg, List.mem_dedup.mpr (List.mem_map.mpr ⟨(p, a), hr, rfl⟩)⟩
  rw [← List.length_flatMap, hperm.length_eq, List.length_map]

/-- **The dates of the window** have each bucket as often as its own date begins with one of them. -/
theorem sum_dayRows {M : Type} [AddCommMonoid M] (f : FiveMinutes ι → M) :
    (q.dates.map fun d => ((q.agg db telemetry (q.timezone.midnight d)).map fun rows => (rows.map f).sum).getD 0).sum =
      ((q.joined db telemetry).map fun a =>
        (q.dates.map q.timezone.midnight).count (q.timezone.timeBucket a.bucket) • f a).sum := by
  rw [← sum_count_key (q.dates.map q.timezone.midnight) (fun a => q.timezone.timeBucket a.bucket) f, List.map_map]
  refine congrArg List.sum (List.map_congr_left fun d _ => ?_)
  show _ = (((q.joined db telemetry).filter fun a =>
    q.timezone.timeBucket a.bucket = q.timezone.midnight d).map f).sum
  unfold Query.agg
  rw [get?_groupBy]
  split_ifs with hnone
  · rw [hnone]
    rfl
  · rfl

/-- The totals of the groups. -/
theorem totals_groupedRows (le : Key → Key → Bool) (byFloor byUse : Bool) (now : ℤ) :
    totals (.grouped (q.groupedRows db telemetry le byFloor byUse now)) =
      ⟨((q.joined db telemetry).map FiveMinutes.energy).sum, ((q.joined db telemetry).map FiveMinutes.goodCount).sum,
        (db.pts q.buildingId).length * expectedUpToNow q.fromMs q.toMs 300 now,
        ((q.joined db telemetry).map fun a => (a.badQualityCount : ℚ)).sum⟩ := by
  have hrows : ∀ {M : Type} [AddCommMonoid M] (f : Figures → M),
      ((EnergyRows.grouped (q.groupedRows db telemetry le byFloor byUse now)).figures.map f).sum =
        ((groupBy (fun r => keyOf byFloor byUse r.1) (q.leftJoined db telemetry)).entries.map fun g =>
          f (q.energyRow now g).toFigures).sum := by
    intro M _ f
    show (((q.groupedRows db telemetry le byFloor byUse now).map EnergyRow.toFigures).map f).sum = _
    unfold Query.groupedRows
    rw [List.map_map, ((List.perm_insertionSort _ _).map (f ∘ EnergyRow.toFigures)).sum_eq, List.map_map]
    rfl
  have hexpected : ∀ g : Key × List (Point ι × Option (FiveMinutes ι)),
      (q.energyRow now g).expectedBucketsCount =
        ((g.2.map fun r => r.1.id).dedup.length : ℤ) * expectedUpToNow q.fromMs q.toMs 300 now := fun g => rfl
  unfold totals
  rw [hrows, hrows, hrows, hrows]
  congr 1
  · rw [← sum_groupedRows db telemetry q FiveMinutes.energy (keyOf byFloor byUse)]
    exact congrArg List.sum (List.map_congr_left fun g _ => getD_energyKwh _)
  · rw [← sum_groupedRows db telemetry q FiveMinutes.goodCount (keyOf byFloor byUse)]
    exact congrArg List.sum (List.map_congr_left fun g _ => good_eq _)
  · rw [List.map_congr_left fun g _ => hexpected g, List.sum_map_mul_right,
      ← sum_sensors db telemetry q (keyOf byFloor byUse), Nat.cast_list_sum, List.map_map]
    rfl
  · rw [← sum_groupedRows db telemetry q (fun a => (a.badQualityCount : ℚ)) (keyOf byFloor byUse)]
    exact congrArg List.sum (List.map_congr_left fun g _ => getD_flagged _)

/-- The expected buckets of the dates, for one sensor. -/
def Query.expectedByDay (now : ℤ) : ℤ :=
  (q.dates.map fun d => expectedUpToNow (max q.fromMs (q.timezone.midnight d))
    (min q.toMs (q.timezone.midnight (d + 1))) 300 now).sum

/-- How often a bucket is among the dates. -/
def Query.times (a : FiveMinutes ι) : ℕ := (q.dates.map q.timezone.midnight).count (q.timezone.timeBucket a.bucket)

/-- The totals of the dates. -/
theorem totals_dayRows (now : ℤ) :
    totals (.days (q.dates.map (q.dayRow db telemetry now))) =
      ⟨((q.joined db telemetry).map fun a => q.times a • a.energy).sum,
        ((q.joined db telemetry).map fun a => q.times a • a.goodCount).sum,
        (db.pts q.buildingId).length * q.expectedByDay now,
        ((q.joined db telemetry).map fun a => q.times a • (a.badQualityCount : ℚ)).sum⟩ := by
  have hrows : ∀ {M : Type} [AddCommMonoid M] (f : Figures → M),
      ((EnergyRows.days (q.dates.map (q.dayRow db telemetry now))).figures.map f).sum =
        (q.dates.map fun d => f (q.dayRow db telemetry now d).toFigures).sum := by
    intro M _ f
    show (((q.dates.map (q.dayRow db telemetry now)).map EnergyDayRow.toFigures).map f).sum = _
    rw [List.map_map, List.map_map]
    rfl
  unfold totals
  rw [hrows, hrows, hrows, hrows]
  congr 1
  · refine Eq.trans (congrArg List.sum (List.map_congr_left fun d _ => ?_))
      (sum_dayRows db telemetry q FiveMinutes.energy)
    show ((q.agg db telemetry (q.timezone.midnight d)).bind fun rows => energyKwh (rows.map some)).getD 0 = _
    rcases q.agg db telemetry (q.timezone.midnight d) with - | rows
    · rfl
    · exact (getD_energyKwh _).trans (addUp_map_some _ rows)
  · refine Eq.trans (congrArg List.sum (List.map_congr_left fun d _ => ?_))
      (sum_dayRows db telemetry q FiveMinutes.goodCount)
    show ((q.agg db telemetry (q.timezone.midnight d)).map fun rows => good (rows.map some)).getD 0 = _
    rcases q.agg db telemetry (q.timezone.midnight d) with - | rows
    · rfl
    · exact (good_eq _).trans (addUp_map_some _ rows)
  · exact List.sum_map_mul_left _ _ _
  · refine Eq.trans (congrArg List.sum (List.map_congr_left fun d _ => ?_))
      (sum_dayRows db telemetry q fun a => (a.badQualityCount : ℚ))
    show ((q.agg db telemetry (q.timezone.midnight d)).bind fun rows => flagged (rows.map some)).getD 0 = _
    rcases q.agg db telemetry (q.timezone.midnight d) with - | rows
    · rfl
    · exact (getD_flagged _).trans (addUp_map_some _ rows)

end Joins

/-! ## The expected buckets -/

/-- The first bucket from an instant on, counted in five minutes. -/
def fives (t : ℤ) : ℤ := ⌈(t : ℚ) / 300000⌉

theorem fives_le_iff {t k : ℤ} : fives t ≤ k ↔ t ≤ k * 300000 := by
  rw [fives, Int.ceil_le, div_le_iff₀ (by norm_num)]
  exact_mod_cast Iff.rfl

theorem fives_mono : Monotone fives := by
  intro t t' h
  exact fives_le_iff.mpr (h.trans (fives_le_iff.mp le_rfl))

theorem expectedUpToNow_eq (fromMs toMs now : ℤ) :
    expectedUpToNow fromMs toMs 300 now = max 0 (fives (min toMs now) - fives fromMs) := by
  have hnow : (if now < toMs then now else toMs) = min toMs now := by
    split_ifs with hlt
    · exact (min_eq_right hlt.le).symm
    · exact (min_eq_left (not_lt.mp hlt)).symm
  rw [expectedUpToNow, hnow, bucketStartsIn, fives, fives]
  norm_num

/-- **Dates follow one another**: what lies between their midnights and within two bounds lies between the first
midnight and the last, and within the bounds. -/
theorem sum_between {c : ℕ → ℤ} (hc : ∀ i, c i ≤ c (i + 1)) (lo hi : ℤ) : ∀ n,
    ((List.range n).map fun i => max 0 (min hi (c (i + 1)) - max lo (c i))).sum = max 0 (min hi (c n) - max lo (c 0)) ∧
      c 0 ≤ c n
  | 0 => by
    refine ⟨?_, le_rfl⟩
    rw [List.range_zero, List.map_nil, List.sum_nil]
    omega
  | n + 1 => by
    obtain ⟨hsum, hle⟩ := sum_between hc lo hi n
    have hnext := hc n
    refine ⟨?_, hle.trans hnext⟩
    rw [List.range_succ, List.map_append, List.sum_append, hsum, List.map_singleton, List.sum_singleton]
    omega

theorem expectedByDay_eq (q : Query ι) (now : ℤ) : q.expectedByDay now =
    max 0 (min (fives (min q.toMs now))
        (fives (q.timezone.midnight (q.firstDay + ((q.lastDay - q.firstDay + 1).toNat : ℕ)))) -
      max (fives q.fromMs) (fives (q.timezone.midnight q.firstDay))) := by
  have hbetween := (@sum_between (fun i => fives (q.timezone.midnight (q.firstDay + (i : ℕ))))
    (fun i => fives_mono (by
      have hordered := q.timezone.ordered (q.firstDay + (i : ℕ))
      rw [add_assoc] at hordered
      exact_mod_cast hordered))
    (fives q.fromMs) (fives (min q.toMs now)) (q.lastDay - q.firstDay + 1).toNat).1
  simp only [Nat.cast_zero, add_zero] at hbetween
  rw [← hbetween, Query.expectedByDay, Query.dates, List.map_map]
  refine congrArg List.sum (List.map_congr_left fun i _ => ?_)
  show expectedUpToNow _ _ 300 now = _
  rw [expectedUpToNow_eq, fives_mono.map_max, min_right_comm, fives_mono.map_min, Nat.cast_succ, add_assoc]

/-! ## When the groupings agree -/

variable {q : Query ι} {now : ℤ}

theorem dates_ne_nil (h : q.dates ≠ []) : q.firstDay + ((q.lastDay - q.firstDay + 1).toNat : ℕ) = q.lastDay + 1 := by
  have hsome : (q.lastDay - q.firstDay + 1).toNat ≠ 0 := by
    intro hnone
    apply h
    rw [Query.dates, hnone]
    rfl
  omega

/-- With every bucket of the window in its place, the dates expect what the window does. -/
theorem expectedByDay_of_placed (h : ∀ b, 300000 ∣ b → q.fromMs ≤ b → b < q.toMs → q.Placed now b) :
    q.expectedByDay now = expectedUpToNow q.fromMs q.toMs 300 now := by
  rw [expectedByDay_eq, expectedUpToNow_eq]
  rcases le_or_gt (fives (min q.toMs now)) (fives q.fromMs) with hnone | hsome
  · omega
  · have hin : ∀ k, fives q.fromMs ≤ k → k < fives (min q.toMs now) →
        q.fromMs ≤ k * 300000 ∧ k * 300000 < min q.toMs now := by
      intro k hfrom hto
      exact ⟨fives_le_iff.mp hfrom, not_le.mp fun h => absurd (fives_le_iff.mpr h) (not_le.mpr hto)⟩
    obtain ⟨hfirst, hfirst'⟩ := hin (fives q.fromMs) le_rfl hsome
    obtain ⟨hlast, hlast'⟩ := hin (fives (min q.toMs now) - 1) (by omega) (by omega)
    have hplaced := h _ (Dvd.intro_left _ rfl) hfirst (hfirst'.trans_le (min_le_left _ _))
    have hplaced' := h _ (Dvd.intro_left _ rfl) hlast (hlast'.trans_le (min_le_left _ _))
    have hne : q.dates ≠ [] := by
      intro hnil
      have hone := hplaced.1
      rw [hnil] at hone
      exact absurd hone (by simp)
    rw [dates_ne_nil hne]
    have hbegin := fives_le_iff.mpr (hplaced.2 (hfirst'.trans_le (min_le_right _ _))).1
    have hend := (hplaced'.2 (hlast'.trans_le (min_le_right _ _))).2
    have hend' : ¬ fives (q.timezone.midnight (q.lastDay + 1)) ≤ fives (min q.toMs now) - 1 := by
      intro hle
      exact absurd (fives_le_iff.mp hle) (not_le.mpr hend)
    omega

/-- What the dates expect, if it is what the window does, is between the first midnight and the last. -/
theorem between_of_expectedByDay (h : q.expectedByDay now = expectedUpToNow q.fromMs q.toMs 300 now)
    (hne : q.dates ≠ []) {b : ℤ} (hb : 300000 ∣ b) (hfrom : q.fromMs ≤ b) (hto : b < q.toMs) (hnow : b < now) :
    q.timezone.midnight q.firstDay ≤ b ∧ b < q.timezone.midnight (q.lastDay + 1) := by
  obtain ⟨k, rfl⟩ := hb
  rw [mul_comm] at hfrom hto hnow ⊢
  rw [expectedByDay_eq, expectedUpToNow_eq, dates_ne_nil hne] at h
  have hlow : fives q.fromMs ≤ k := fives_le_iff.mpr hfrom
  have hhigh : ¬ fives (min q.toMs now) ≤ k := fun hle => absurd (fives_le_iff.mp hle) (not_le.mpr (lt_min hto hnow))
  have hbegin : fives (q.timezone.midnight q.firstDay) ≤ k := by omega
  have hend : ¬ fives (q.timezone.midnight (q.lastDay + 1)) ≤ k := by omega
  exact ⟨fives_le_iff.mp hbegin, not_le.mp fun hle => hend (fives_le_iff.mpr hle)⟩

section Agreement

variable [DecidableEq ι] {db : Database ι}

/-- A bucket of one point, with nothing flagged. -/
def one (p : Point ι) (b : ℤ) : FiveMinutes ι := ⟨p.id, b, some 1, 0⟩

/-- **Energy groupings.**  The groupings have the same totals, for all the buckets that there may be, exactly if there
is no point, or every bucket that starts in the window has its own date begin with one of the dates of the window and
with no other, and those that are due lie between the beginning of the first date and the end of the last. -/
theorem groupings_agree_iff (db : Database ι) (q : Query ι) (le : Key → Key → Bool) (now : ℤ) :
    (∀ telemetry : List (FiveMinutes ι), (∀ a ∈ telemetry, 300000 ∣ a.bucket) → ∀ g g',
      totals (copilotEnergyByEndUse db telemetry q le now g) =
        totals (copilotEnergyByEndUse db telemetry q le now g')) ↔
    db.pts q.buildingId = [] ∨ ∀ b, 300000 ∣ b → q.fromMs ≤ b → b < q.toMs → q.Placed now b := by
  constructor
  · intro hagree
    rcases hpoints : db.pts q.buildingId with - | ⟨p, pts⟩
    · exact Or.inl rfl
    refine Or.inr fun b hb hfrom hto => ?_
    have hp : p ∈ db.pts q.buildingId := hpoints ▸ List.mem_cons_self
    have htimes : q.times (one p b) = 1 := by
      have hall : ∀ a ∈ q.joined db [one p b], a = one p b := fun a ha =>
        List.mem_singleton.mp (mem_joined db [one p b] q ha).1
      have hmem : one p b ∈ q.joined db [one p b] := by
        refine List.mem_flatMap.mpr ⟨p, hp, List.mem_filter.mpr ⟨List.mem_singleton_self _, ?_⟩⟩
        exact decide_eq_true ⟨rfl, hfrom, hto⟩
      have hgood := congrArg Totals.goodBucketsCount (hagree [one p b] (by simpa [one] using hb) .floor .localDay)
      simp only [copilotEnergyByEndUse, totals_groupedRows, totals_dayRows] at hgood
      rw [List.eq_replicate_of_mem hall] at hgood
      have hpos := List.length_pos_of_mem hmem
      simp only [List.map_replicate, List.sum_replicate, smul_eq_mul, FiveMinutes.goodCount, one, Option.isSome_some,
        if_true, mul_one] at hgood
      exact (Nat.eq_of_mul_eq_mul_left hpos (by rw [mul_one]; exact hgood)).symm
    have hexpected : q.expectedByDay now = expectedUpToNow q.fromMs q.toMs 300 now := by
      have hcount := congrArg Totals.expectedBucketsCount (hagree [] (by simp) .floor .localDay)
      simp only [copilotEnergyByEndUse, totals_groupedRows, totals_dayRows] at hcount
      have hpos : ((db.pts q.buildingId).length : ℤ) ≠ 0 := by
        rw [hpoints, List.length_cons]
        omega
      exact (mul_left_cancel₀ hpos hcount).symm
    have hne : q.dates ≠ [] := by
      intro hnil
      rw [Query.times, hnil] at htimes
      exact absurd htimes (by simp)
    exact ⟨htimes, fun hnow => between_of_expectedByDay hexpected hne hb hfrom hto hnow⟩
  · rintro hgood telemetry hfive g g'
    have hsame : totals (.days (q.dates.map (q.dayRow db telemetry now))) =
        ⟨((q.joined db telemetry).map FiveMinutes.energy).sum, ((q.joined db telemetry).map FiveMinutes.goodCount).sum,
          (db.pts q.buildingId).length * expectedUpToNow q.fromMs q.toMs 300 now,
          ((q.joined db telemetry).map fun a => (a.badQualityCount : ℚ)).sum⟩ := by
      rw [totals_dayRows]
      rcases hgood with hnone | hplaced
      · have hjoined : q.joined db telemetry = [] := by
          rw [Query.joined, hnone]
          rfl
        rw [hjoined, hnone]
        simp
      · have hone : ∀ a ∈ q.joined db telemetry, q.times a = 1 := by
          intro a ha
          obtain ⟨hmem, hfrom, hto⟩ := mem_joined db telemetry q ha
          exact (hplaced a.bucket (hfive a hmem) hfrom hto).1
        have honce : ∀ {M : Type} [AddCommMonoid M] (f : FiveMinutes ι → M),
            ((q.joined db telemetry).map fun a => q.times a • f a).sum = ((q.joined db telemetry).map f).sum := by
          intro M _ f
          refine congrArg List.sum (List.map_congr_left fun a ha => ?_)
          rw [hone a ha, one_nsmul]
        rw [honce, honce, honce, expectedByDay_of_placed hplaced]
    have hall : ∀ g, totals (copilotEnergyByEndUse db telemetry q le now g) =
        ⟨((q.joined db telemetry).map FiveMinutes.energy).sum, ((q.joined db telemetry).map FiveMinutes.goodCount).sum,
          (db.pts q.buildingId).length * expectedUpToNow q.fromMs q.toMs 300 now,
          ((q.joined db telemetry).map fun a => (a.badQualityCount : ℚ)).sum⟩ := by
      intro g
      cases g with
      | floor => exact totals_groupedRows db telemetry q le true false now
      | endUse => exact totals_groupedRows db telemetry q le false true now
      | floorEndUse => exact totals_groupedRows db telemetry q le true true now
      | localDay => exact hsame
    rw [hall g, hall g']

end Agreement

/-! ## A midnight that comes twice -/

/-- The Azores in the autumn of 2025: at 01:00 of 26 October, summer time, it is 00:00 again. -/
def azores : TimeZone where
  offset t := if t < 1761440400000000 then 0 else -3600000000
  midnight d := if d < 20387 then 86400000 * d else 86400000 * d + 3600000
  ordered d := by split_ifs <;> omega
  reads d t h := by
    simp only [DAY_US] at h ⊢
    split_ifs at h ⊢ <;> omega

def building : Database ℕ where
  sensors := [⟨1, some 1, none, .powerKw, true⟩]
  equipment := [⟨1, "ahu", 0, none⟩]
  floors := []
  sensorIds := by decide
  equipmentIds := by decide
  floorIds := List.nodup_nil

/-- 26 October, of 25 hours, from its first midnight on. -/
def longDay : Query ℕ := ⟨1761436800000, 1761526800000, azores, 0⟩

/-- The first hour of the day is expected by end use and not by day. -/
theorem hour_not_expected :
    (totals (copilotEnergyByEndUse building [] longDay (fun _ _ => true) 1770000000000
      .endUse)).expectedBucketsCount = 300 ∧
    (totals (copilotEnergyByEndUse building [] longDay (fun _ _ => true) 1770000000000
      .localDay)).expectedBucketsCount = 288 := by
  constructor
  · decide +kernel
  · decide +kernel

end DTwin.Db.Energy
