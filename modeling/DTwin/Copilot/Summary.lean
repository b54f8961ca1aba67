import DTwin.Copilot.Windows
import DTwin.Lib.OrderedMap
import DTwin.Lib.Text
import Mathlib.Algebra.BigOperators.Group.List.Basic
import Mathlib.Algebra.Order.Field.Rat
import Mathlib.Data.List.Perm.Subperm
import Mathlib.Tactic.Linarith
import Mathlib.Tactic.Ring

/-!
# DTwin.Copilot.Summary — what is said of a simulated run

`checkInput`, `completeRows` and `summariseRun` of `apps/web/lib/copilot/tools/simulate.ts`, and what becomes of the
rows of a run between them.  Instants are in milliseconds, numbers are exact.  The checks of the weather, of the
scenarios and of their names only refuse, so they are given (`bounds`); nothing is said of the polling of a run.

The rows are counted, and each is looked at: with as many rows as there are cells, all in the grid and no two in one
cell, there is one in each (`completeRows_iff`). -/

namespace DTwin.Copilot.Simulate

open OrderedMap

structure DirectoryRow where
  id : String
  name : String
  designOccupancyCount : Option ℚ
  designedSetpointC : Option ℚ
  deadbandK : Option ℚ

structure SimResultRow where
  zoneId : String
  /-- What `getTime` makes of it; `none` is not a number. -/
  intervalStart : Option ℤ
  hvacLoadKwh : ℚ
  lightingKwh : ℚ
  plugKwh : ℚ
  totalKwh : ℚ
  indoorTempC : Option ℚ
  occupancyCount : Option ℚ
  unmetHours : Option ℚ

structure Limits where
  simMaxZones : ℕ
  simMaxWindowH : ℤ
  simWarmupH : ℕ
  simMaxZoneH : ℤ

/-! ## The plan of the runs -/

/-- What is asked for, the instants as `Date.parse` reads them. -/
structure SimulateInput where
  zoneIds : List String
  start : Option ℤ
  stop : Option ℤ

/-- The plan: zones that are listed once, and the hours from the warm-up to the end of the window. -/
structure SimPlan (limits : Limits) where
  zones : List DirectoryRow
  w : Window
  intervals : ℕ
  distinct : (zones.map DirectoryRow.id).Nodup
  after : w.fromMs < w.toMs
  whole : intervals * HOUR_MS = w.toMs - w.fromMs + limits.simWarmupH * HOUR_MS

abbrev Refused := String

/-- The zones of the ids, and the ids that the directory does not have; `seen` has been listed. -/
def readZones (directory : List DirectoryRow) :
    (seen : List String) → List String → Except Refused (List DirectoryRow × List String)
  | _, [] => .ok ([], [])
  | seen, id :: ids =>
    if id ∈ seen then .error ("zone " ++ id ++ " is listed twice")
    else do
      let (zones, unknown) ← readZones directory (id :: seen) ids
      match directory.find? fun d => d.id = id with
      | some z => .ok (z :: zones, unknown)
      | none => .ok (zones, id :: unknown)

theorem id_readZones {directory : List DirectoryRow} : ∀ {ids seen : List String} {zones : List DirectoryRow}
    {unknown : List String}, readZones directory seen ids = .ok (zones, unknown) →
    (zones.map DirectoryRow.id).Sublist ids ∧ ids.Nodup ∧ ∀ id ∈ ids, id ∉ seen
  | [], seen, zones, unknown, h => by
    cases h
    exact ⟨List.Sublist.refl _, List.nodup_nil, by simp⟩
  | id :: ids, seen, zones, unknown, h => by
    rw [readZones] at h
    by_cases hseen : id ∈ seen
    · rw [if_pos hseen] at h
      cases h
    · rw [if_neg hseen] at h
      cases hrest : readZones directory (id :: seen) ids with
      | error e =>
        rw [hrest] at h
        cases h
      | ok read =>
        obtain ⟨zones', unknown'⟩ := read
        obtain ⟨hsub, hnodup, hnew⟩ := id_readZones hrest
        have hids : (id :: ids).Nodup :=
          List.nodup_cons.mpr ⟨fun hmem => hnew id hmem List.mem_cons_self, hnodup⟩
        have hunseen : ∀ id' ∈ id :: ids, id' ∉ seen := by
          intro id' hid'
          rcases List.mem_cons.mp hid' with rfl | hmem
          · exact hseen
          · exact fun hmem' => hnew id' hmem (List.mem_cons_of_mem _ hmem')
        rw [hrest] at h
        simp only [bind, Except.bind] at h
        cases hfind : directory.find? fun d => d.id = id with
        | none =>
          rw [hfind] at h
          cases h
          exact ⟨hsub.cons id, hids, hunseen⟩
        | some z =>
          have hz : z.id = id := by simpa using List.find?_some hfind
          rw [hfind] at h
          cases h
          rw [List.map_cons, hz]
          exact ⟨hsub.cons_cons id, hids, hunseen⟩

/-- `hoursAndDays`. -/
def hoursAndDays (h : ℤ) : String :=
  if h % 24 = 0 then toString h ++ " h (" ++ toString (h / 24) ++ " d)" else toString h ++ " h"

theorem whole_span {limits : Limits} {fromMs toMs : ℤ} (hwhole : fromMs % HOUR_MS = 0 ∧ toMs % HOUR_MS = 0)
    (hafter : fromMs < toMs) :
    ((((toMs - fromMs) / HOUR_MS + limits.simWarmupH).toNat : ℕ) : ℤ) * HOUR_MS =
      toMs - fromMs + limits.simWarmupH * HOUR_MS := by
  have hspan : (toMs - fromMs) / HOUR_MS * HOUR_MS = toMs - fromMs :=
    Int.ediv_mul_cancel (Int.dvd_sub (Int.dvd_of_emod_eq_zero hwhole.2) (Int.dvd_of_emod_eq_zero hwhole.1))
  have hpos : 0 ≤ (toMs - fromMs) / HOUR_MS := Int.ediv_nonneg (by omega) (by decide)
  rw [Int.toNat_of_nonneg (by omega), add_mul, hspan]

/-- `checkInput`. -/
def checkInput (limits : Limits) (directory : List DirectoryRow) (bounds : Option Refused) (p : SimulateInput) :
    Except Refused (SimPlan limits) :=
  if p.zoneIds.length < 1 ∨ limits.simMaxZones < p.zoneIds.length then
    .error ("zoneIds holds 1 to " ++ toString limits.simMaxZones ++ " zones, got " ++ toString p.zoneIds.length)
  else
    match hread : readZones directory [] p.zoneIds with
    | .error e => .error e
    | .ok (zones, unknown) =>
      if unknown ≠ [] then
        .error ("unknown zone id(s): " ++ ", ".intercalate (unknown.take 6) ++ " — use ids from the directory")
      else
        match p.start, p.stop with
        | some fromMs, some toMs =>
          if hwhole : fromMs % HOUR_MS = 0 ∧ toMs % HOUR_MS = 0 then
            if hafter : fromMs < toMs then
              if limits.simMaxWindowH < (toMs - fromMs) / HOUR_MS then
                .error ("window is " ++ toString ((toMs - fromMs) / HOUR_MS) ++
                " h; simulate_scenarios answers at most " ++
                  hoursAndDays limits.simMaxWindowH)
              else
                match bounds with
                | some e => .error e
                | none =>
                  let intervals := (toMs - fromMs) / HOUR_MS + limits.simWarmupH
                  if limits.simMaxZoneH < zones.length * intervals then
                    .error (toString zones.length ++ " zones × " ++ toString intervals ++ " h (including " ++
                      toString limits.simWarmupH ++ " h warm-up) is " ++ toString (zones.length * intervals) ++
                      " zone-hours; a run is at most " ++ toString limits.simMaxZoneH)
                  else
                    .ok ⟨zones, ⟨fromMs, toMs⟩, intervals.toNat,
                      (id_readZones hread).1.nodup (id_readZones hread).2.1, hafter, whole_span hwhole hafter⟩
            else .error "to must be after from"
          else .error "from and to must be on whole hours (the simulator steps hourly)"
        | _, _ => .error "from and to must be on whole hours (the simulator steps hourly)"

/-! ## Is the run complete? -/

/-- The key of a row in `seen`. -/
def rowKey (zoneId : String) (t : ℤ) : String := zoneId ++ "@" ++ toString t

/-- `i`, if it is an integer. -/
def intervalIndex (periodStartMs t : ℤ) : Option ℤ :=
  if (t - periodStartMs) % HOUR_MS = 0 then some ((t - periodStartMs) / HOUR_MS) else none

/-- The loop of `completeRows`. -/
def scanRows (want : List String) (intervals : ℕ) (periodStartMs : ℤ) : (seen : List String) → List SimResultRow → Bool
  | _, [] => true
  | seen, r :: rows =>
    match r.intervalStart with
    | none => false
    | some t =>
      if r.zoneId ∈ want ∧ (intervalIndex periodStartMs t).any (fun i : ℤ => 0 ≤ i ∧ i < (intervals : ℤ)) then
        if rowKey r.zoneId t ∈ seen then false
        else scanRows want intervals periodStartMs (rowKey r.zoneId t :: seen) rows
      else false

/-- `completeRows`. -/
def completeRows {limits : Limits} (rows : List SimResultRow) (plan : SimPlan limits) (periodStartMs : ℤ) : Bool :=
  if rows.length ≠ plan.zones.length * plan.intervals then false
  else scanRows (plan.zones.map DirectoryRow.id) plan.intervals periodStartMs [] rows

/-- Every row is for an interval of a zone, and for each interval of a zone there is one. -/
def OnePerCell (rows : List SimResultRow) (zones : List DirectoryRow) (intervals : ℕ) (startMs : ℤ) : Prop :=
  (∀ r ∈ rows, ∃ z ∈ zones, ∃ i : ℕ, i < intervals ∧ r.zoneId = z.id ∧
    r.intervalStart = some (startMs + (i : ℤ) * HOUR_MS)) ∧
    ∀ z ∈ zones, ∀ i : ℕ, i < intervals →
      (rows.countP fun r => r.zoneId = z.id ∧ r.intervalStart = some (startMs + (i : ℤ) * HOUR_MS)) = 1

/-- The cell of a row. -/
def SimResultRow.cell (r : SimResultRow) : String × Option ℤ := (r.zoneId, r.intervalStart)

def cells (zones : List DirectoryRow) (intervals : ℕ) (startMs : ℤ) : List (String × Option ℤ) :=
  zones.flatMap fun z => (List.range intervals).map fun i : ℕ => (z.id, some (startMs + (i : ℤ) * HOUR_MS))

theorem rowKey_injective {z z' : String} {t t' : ℤ} (h : rowKey z t = rowKey z' t') : z = z' ∧ t = t' := by
  have hat : ∀ i : ℤ, '@' ∉ (toString i).toList := by
    intro i hmem
    rcases Text.mem_toString_int hmem with hminus | hdigit
    · exact absurd hminus (by decide)
    · exact absurd hdigit (by decide)
  have hlist : z.toList ++ '@' :: (toString t).toList = z'.toList ++ '@' :: (toString t').toList := by
    have hkeys := congrArg String.toList h
    simpa [rowKey] using hkeys
  obtain ⟨hz, ht⟩ := Text.append_separator_last (hat t) (hat t') hlist
  exact ⟨String.ext hz, Text.toString_int_injective (String.ext ht)⟩

variable {zones : List DirectoryRow} {intervals : ℕ} {startMs : ℤ} {rows : List SimResultRow}

theorem mem_cells {c : String × Option ℤ} : c ∈ cells zones intervals startMs ↔
    ∃ z ∈ zones, ∃ i : ℕ, i < intervals ∧ c.1 = z.id ∧ c.2 = some (startMs + (i : ℤ) * HOUR_MS) := by
  simp only [cells, List.mem_flatMap, List.mem_map, List.mem_range]
  constructor
  · rintro ⟨z, hz, i, hi, rfl⟩
    exact ⟨z, hz, i, hi, rfl, rfl⟩
  · rintro ⟨z, hz, i, hi, hid, hstart⟩
    exact ⟨z, hz, i, hi, Prod.ext hid.symm hstart.symm⟩

theorem length_cells : (cells zones intervals startMs).length = zones.length * intervals := by
  induction zones with
  | nil => simp [cells]
  | cons z zones ih =>
    have hcons : cells (z :: zones) intervals startMs =
        ((List.range intervals).map fun i : ℕ => (z.id, some (startMs + (i : ℤ) * HOUR_MS))) ++
        cells zones intervals startMs :=
      List.flatMap_cons
    rw [hcons, List.length_append, List.length_map, List.length_range, ih, List.length_cons]
    ring

theorem nodup_cells (hzones : (zones.map DirectoryRow.id).Nodup) : (cells zones intervals startMs).Nodup := by
  have hhour : (0 : ℤ) < HOUR_MS := by decide
  unfold cells
  rw [List.nodup_flatMap]
  constructor
  · intro z _
    refine List.Nodup.map ?_ List.nodup_range
    intro i j hij
    have hstart : startMs + (i : ℤ) * HOUR_MS = startMs + (j : ℤ) * HOUR_MS := Option.some.inj (congrArg Prod.snd hij)
    have hmul := Int.eq_of_mul_eq_mul_right hhour.ne' (add_left_cancel hstart)
    exact Int.ofNat_inj.mp hmul
  · refine (List.pairwise_map.mp hzones).imp ?_
    intro z z' hne c hc hc'
    obtain ⟨i, -, rfl⟩ := List.mem_map.mp hc
    obtain ⟨j, -, heq⟩ := List.mem_map.mp hc'
    exact hne (congrArg Prod.fst heq).symm

/-- The grid, cell by cell. -/
theorem onePerCell_iff (hzones : (zones.map DirectoryRow.id).Nodup) :
    OnePerCell rows zones intervals startMs ↔ (rows.map SimResultRow.cell).Perm (cells zones intervals startMs) := by
  have hcount : ∀ z i, (rows.map SimResultRow.cell).count (z, some i) =
      rows.countP fun r => r.zoneId = z ∧ r.intervalStart = some i := by
    intro z i
    rw [List.count_eq_countP, List.countP_map]
    refine List.countP_congr fun r _ => ?_
    simp [SimResultRow.cell, Prod.ext_iff]
  constructor
  · rintro ⟨hin, hone⟩
    rw [List.perm_iff_count]
    rintro ⟨id, start⟩
    by_cases hmem : (id, start) ∈ cells zones intervals startMs
    · rw [List.count_eq_one_of_mem (nodup_cells hzones) hmem]
      obtain ⟨z, hz, i, hi, hid, hstart⟩ := mem_cells.mp hmem
      dsimp only at hid hstart
      rw [hid, hstart, hcount]
      exact hone z hz i hi
    · rw [List.count_eq_zero_of_not_mem hmem, List.count_eq_zero]
      intro hrow
      obtain ⟨r, hr, hcell⟩ := List.mem_map.mp hrow
      obtain ⟨z, hz, i, hi, hid, hstart⟩ := hin r hr
      exact hmem (hcell ▸ mem_cells.mpr ⟨z, hz, i, hi, hid, hstart⟩)
  · intro hperm
    constructor
    · intro r hr
      exact mem_cells.mp (hperm.subset (List.mem_map_of_mem hr))
    · intro z hz i hi
      rw [← hcount, hperm.count_eq]
      exact List.count_eq_one_of_mem (nodup_cells hzones) (mem_cells.mpr ⟨z, hz, i, hi, rfl, rfl⟩)

theorem intervalIndex_any {t : ℤ} : (intervalIndex startMs t).any (fun i : ℤ => 0 ≤ i ∧ i < (intervals : ℤ)) = true ↔
    ∃ i : ℕ, i < intervals ∧ t = startMs + (i : ℤ) * HOUR_MS := by
  have hhour : (0 : ℤ) < HOUR_MS := by decide
  unfold intervalIndex
  constructor
  · intro h
    split_ifs at h with hwhole
    · have hrange : 0 ≤ (t - startMs) / HOUR_MS ∧ (t - startMs) / HOUR_MS < intervals := by simpa using h
      have hmul : (t - startMs) / HOUR_MS * HOUR_MS = t - startMs :=
        Int.ediv_mul_cancel (Int.dvd_of_emod_eq_zero hwhole)
      refine ⟨((t - startMs) / HOUR_MS).toNat, by omega, ?_⟩
      rw [Int.toNat_of_nonneg hrange.1, hmul]
      omega
    · cases h
  · rintro ⟨i, hi, rfl⟩
    have hdiff : startMs + (i : ℤ) * HOUR_MS - startMs = i * HOUR_MS := by ring
    rw [hdiff, Int.mul_emod_left, if_pos rfl, Int.mul_ediv_cancel _ hhour.ne']
    simpa using hi

/-- The loop accepts the rows of the grid that are in different cells, and in none that is taken. -/
theorem scanRows_iff : ∀ {seen : List String} {rows : List SimResultRow},
    scanRows (zones.map DirectoryRow.id) intervals startMs seen rows = true ↔
      (∀ r ∈ rows, r.cell ∈ cells zones intervals startMs) ∧ (rows.map SimResultRow.cell).Nodup ∧
        ∀ r ∈ rows, ∀ t, r.intervalStart = some t → rowKey r.zoneId t ∉ seen
  | seen, [] => by simp [scanRows]
  | seen, r :: rows => by
    rw [scanRows]
    cases hstart : r.intervalStart with
    | none =>
      constructor
      · intro h
        cases h
      · rintro ⟨hin, -⟩
        obtain ⟨z, -, i, -, -, hsome⟩ := mem_cells.mp (hin r List.mem_cons_self)
        exact absurd (hstart.symm.trans hsome) (by simp)
    | some t =>
      have hcell : r.cell ∈ cells zones intervals startMs ↔ r.zoneId ∈ zones.map DirectoryRow.id ∧
          (intervalIndex startMs t).any (fun i : ℤ => 0 ≤ i ∧ i < (intervals : ℤ)) = true := by
        rw [mem_cells, intervalIndex_any]
        simp only [SimResultRow.cell, hstart, Option.some.injEq, List.mem_map]
        constructor
        · rintro ⟨z, hz, i, hi, hid, ht⟩
          exact ⟨⟨z, hz, hid.symm⟩, i, hi, ht⟩
        · rintro ⟨⟨z, hz, hid⟩, i, hi, ht⟩
          exact ⟨z, hz, i, hi, hid.symm, ht⟩
      have hrest : scanRows (zones.map DirectoryRow.id) intervals startMs (rowKey r.zoneId t :: seen) rows = true ↔ _ :=
        scanRows_iff
      dsimp only
      split_ifs with hgrid hseen
      · constructor
        · intro h
          cases h
        · rintro ⟨-, -, hnew⟩
          exact absurd hseen (hnew r List.mem_cons_self t hstart)
      · rw [hrest, List.map_cons, List.nodup_cons, List.forall_mem_cons, List.forall_mem_cons]
        constructor
        · rintro ⟨hin, hnodup, hnew⟩
          refine ⟨⟨hcell.mpr hgrid, hin⟩, ⟨?_, hnodup⟩, ?_, ?_⟩
          · intro hmem
            obtain ⟨r', hr', heq⟩ := List.mem_map.mp hmem
            have hzone : r'.zoneId = r.zoneId := congrArg Prod.fst heq
            have htime : r'.intervalStart = some t := (congrArg Prod.snd heq).trans hstart
            exact hnew r' hr' t htime (hzone ▸ List.mem_cons_self)
          · intro t' ht'
            cases hstart.symm.trans ht'
            exact hseen
          · exact fun r' hr' t' ht' hmem => hnew r' hr' t' ht' (List.mem_cons_of_mem _ hmem)
        · rintro ⟨⟨-, hin⟩, ⟨hother, hnodup⟩, -, hnew⟩
          refine ⟨hin, hnodup, fun r' hr' t' ht' hmem => ?_⟩
          rcases List.mem_cons.mp hmem with heq | hold
          · obtain ⟨hzone, rfl⟩ := rowKey_injective heq
            exact hother (List.mem_map.mpr ⟨r', hr', Prod.ext hzone (ht'.trans hstart.symm)⟩)
          · exact hnew r' hr' t' ht' hold
      · constructor
        · intro h
          cases h
        · rintro ⟨hin, -⟩
          exact absurd (hcell.mp (hin r List.mem_cons_self)) hgrid

/-- **Complete** is one row a cell: as many rows as cells, each in the grid, no two in one. -/
theorem completeRows_iff {limits : Limits} (plan : SimPlan limits) :
    completeRows rows plan startMs = true ↔ OnePerCell rows plan.zones plan.intervals startMs := by
  rw [onePerCell_iff plan.distinct, completeRows]
  constructor
  · intro h
    split_ifs at h with hlength
    · obtain ⟨hin, hnodup, -⟩ := scanRows_iff.mp h
      have hsub : (rows.map SimResultRow.cell).Subperm (cells plan.zones plan.intervals startMs) :=
        hnodup.subperm fun c hc => by
          obtain ⟨r, hr, rfl⟩ := List.mem_map.mp hc
          exact hin r hr
      refine hsub.perm_of_length_le ?_
      rw [length_cells, List.length_map]
      exact (not_not.mp hlength).ge
  · intro hperm
    have hlength : rows.length = plan.zones.length * plan.intervals := by
      rw [← length_cells, ← hperm.length_eq, List.length_map]
    rw [if_neg (not_not.mpr hlength), scanRows_iff]
    exact ⟨fun r hr => hperm.subset (List.mem_map_of_mem hr), hperm.nodup_iff.mpr (nodup_cells plan.distinct), by simp⟩

/-! ## The summary of a run -/

def COMFORT_TOLERANCE_K : ℚ := 1 / 2

def OCCUPIED_SHARE : ℚ := 5 / 100

structure RunSummary where
  totalKwh : ℚ
  hvacKwh : ℚ
  lightingKwh : ℚ
  plugKwh : ℚ
  peakIntervalKw : Option ℚ
  peakAt : Option ℤ
  unmetOwnBandZoneH : Option ℚ
  warmVsDesignZoneH : ℚ
  coolVsDesignZoneH : ℚ

structure ZoneComfort where
  maxOccupiedC : Option ℚ
  warmH : ℚ

def ZoneComfort.start : ZoneComfort := ⟨none, 0⟩

/-- The variables of the loop. -/
structure Tally where
  perInterval : OrderedMap (Option ℤ) ℚ
  byZone : OrderedMap String ZoneComfort
  total : ℚ
  hvac : ℚ
  lighting : ℚ
  plug : ℚ
  unmet : Option ℚ
  warm : ℚ
  cool : ℚ

def occupied (z : DirectoryRow) (r : SimResultRow) : Bool :=
  OCCUPIED_SHARE * z.designOccupancyCount.getD 0 < r.occupancyCount.getD 0

/-- Beyond the designed band; a zone with no profile cannot be judged. -/
def tooWarm (z : DirectoryRow) (indoorTempC : ℚ) : Bool :=
  match z.designedSetpointC, z.deadbandK with
  | some setpoint, some deadband => setpoint + (deadband / 2 + COMFORT_TOLERANCE_K) < indoorTempC
  | _, _ => false

def tooCool (z : DirectoryRow) (indoorTempC : ℚ) : Bool :=
  match z.designedSetpointC, z.deadbandK with
  | some setpoint, some deadband => indoorTempC < setpoint - (deadband / 2 + COMFORT_TOLERANCE_K)
  | _, _ => false

/-- The energies of a row. -/
def Tally.charge (s : Tally) (r : SimResultRow) : Tally :=
  { s with
    total := s.total + r.totalKwh
    hvac := s.hvac + r.hvacLoadKwh
    lighting := s.lighting + r.lightingKwh
    plug := s.plug + r.plugKwh
    unmet := match r.unmetHours with
      | some unmet => some (s.unmet.getD 0 + unmet)
      | none => s.unmet
    perInterval := s.perInterval.set r.intervalStart ((s.perInterval.get? r.intervalStart).getD 0 + r.totalKwh) }

/-- The comfort of a row. -/
def Tally.judge (dir : OrderedMap String DirectoryRow) (intervalH : ℚ) (s : Tally) (r : SimResultRow) : Tally :=
  match dir.get? r.zoneId, s.byZone.get? r.zoneId, r.indoorTempC with
  | some z, some zc, some temp =>
    if occupied z r then
      { s with
        byZone := s.byZone.set r.zoneId
          ⟨some (zc.maxOccupiedC.elim temp fun c => max c temp), zc.warmH + if tooWarm z temp then intervalH else 0⟩
        warm := s.warm + if tooWarm z temp then intervalH else 0
        cool := s.cool + if tooCool z temp then intervalH else 0 }
    else s
  | _, _, _ => s

def Tally.start (zones : List DirectoryRow) : Tally :=
  ⟨.empty, zones.foldl (fun m z => m.set z.id .start) .empty, 0, 0, 0, 0, none, 0, 0⟩

/-- The loop of `summariseRun`. -/
def tally (zones : List DirectoryRow) (intervalH : ℚ) (rows : List SimResultRow) : Tally :=
  rows.foldl (fun s r => (s.charge r).judge (ofList DirectoryRow.id zones) intervalH r) (Tally.start zones)

/-- `t < peakAt`; nothing is earlier than what is not a number. -/
def earlier : Option ℤ → Option ℤ → Bool
  | some t, some t' => t < t'
  | _, _ => false

/-- The loop for the peak, from `-Infinity`. -/
def peakStep (best : Option (Option ℤ × ℚ)) (e : Option ℤ × ℚ) : Option (Option ℤ × ℚ) :=
  match best with
  | none => some e
  | some b => if b.2 < e.2 ∨ e.2 = b.2 ∧ earlier e.1 b.1 then some e else some b

/-- `summariseRun`; `toISOString` throws if the peak is at no instant. -/
def summariseRun (rows : List SimResultRow) (zones : List DirectoryRow) (intervalH : ℚ) :
    Option (RunSummary × OrderedMap String ZoneComfort) :=
  let s := tally zones intervalH rows
  let summary (peak : Option (ℤ × ℚ)) : RunSummary :=
    ⟨s.total, s.hvac, s.lighting, s.plug, peak.map fun e => e.2 / intervalH, peak.map Prod.fst, s.unmet, s.warm, s.cool⟩
  match s.perInterval.entries.foldl peakStep none with
  | none => some (summary none, s.byZone)
  | some (none, _) => none
  | some (some t, kwh) => some (summary (some (t, kwh)), s.byZone)

/-- What `runOne` makes of the rows of a run that completed. -/
def runRows {limits : Limits} (plan : SimPlan limits) (rows : List SimResultRow) : Except Refused (List SimResultRow) :=
  if completeRows rows plan (plan.w.fromMs - limits.simWarmupH * HOUR_MS) then .ok rows
  else .error ("incomplete results (" ++ toString rows.length ++ " of " ++
    toString (plan.zones.length * plan.intervals) ++ " rows)")

/-- The rows of the window: the warm-up is dropped. -/
def target (w : Window) (rows : List SimResultRow) : List SimResultRow :=
  rows.filter fun r => r.intervalStart.any fun t => w.fromMs ≤ t ∧ t < w.toMs

/-- What is said of a run: nothing if it is refused. -/
def report {limits : Limits} (plan : SimPlan limits) (rows : List SimResultRow) :
    Except Refused (Option (RunSummary × OrderedMap String ZoneComfort)) :=
  (runRows plan rows).map fun rows => summariseRun (target plan.w rows) plan.zones 1

/-! ## What the figures are -/

/-- The zone and the temperature of a row, if anyone is in. -/
def occupiedIn (dir : OrderedMap String DirectoryRow) (r : SimResultRow) : Option (DirectoryRow × ℚ) :=
  match dir.get? r.zoneId, r.indoorTempC with
  | some z, some temp => if occupied z r then some (z, temp) else none
  | _, _ => none

/-- The hours of a row that are too warm, and too cool. -/
def warmIn (dir : OrderedMap String DirectoryRow) (intervalH : ℚ) (r : SimResultRow) : ℚ :=
  (occupiedIn dir r).elim 0 fun e => if tooWarm e.1 e.2 then intervalH else 0

def coolIn (dir : OrderedMap String DirectoryRow) (intervalH : ℚ) (r : SimResultRow) : ℚ :=
  (occupiedIn dir r).elim 0 fun e => if tooCool e.1 e.2 then intervalH else 0

/-- The comfort of a zone, from its rows. -/
def comfortOf (dir : OrderedMap String DirectoryRow) (intervalH : ℚ) (rows : List SimResultRow) (id : String) :
    ZoneComfort where
  maxOccupiedC := (((rows.filter fun r => r.zoneId = id).filterMap (occupiedIn dir)).map Prod.snd).max?
  warmH := ((rows.filter fun r => r.zoneId = id).map (warmIn dir intervalH)).sum

/-- The energy of an interval. -/
def intervalKwh (rows : List SimResultRow) (t : Option ℤ) : ℚ :=
  ((rows.filter fun r => r.intervalStart = t).map SimResultRow.totalKwh).sum

/-- The figures are the sums over the rows, and those of the zones and of the intervals add up to them. -/
structure Summarised (rows : List SimResultRow) (zones : List DirectoryRow) (intervalH : ℚ) (summary : RunSummary)
    (byZone : OrderedMap String ZoneComfort) : Prop where
  total : summary.totalKwh = (rows.map SimResultRow.totalKwh).sum
  hvac : summary.hvacKwh = (rows.map SimResultRow.hvacLoadKwh).sum
  lighting : summary.lightingKwh = (rows.map SimResultRow.lightingKwh).sum
  plug : summary.plugKwh = (rows.map SimResultRow.plugKwh).sum
  unmet : summary.unmetOwnBandZoneH =
    if rows.filterMap SimResultRow.unmetHours = [] then none else some (rows.filterMap SimResultRow.unmetHours).sum
  warm : summary.warmVsDesignZoneH = (rows.map (warmIn (ofList DirectoryRow.id zones) intervalH)).sum
  cool : summary.coolVsDesignZoneH = (rows.map (coolIn (ofList DirectoryRow.id zones) intervalH)).sum
  ofZone : ∀ id, byZone.get? id =
    if id ∈ zones.map DirectoryRow.id then some (comfortOf (ofList DirectoryRow.id zones) intervalH rows id) else none
  partition : (byZone.values.map ZoneComfort.warmH).sum = summary.warmVsDesignZoneH
  peakNone : summary.peakAt = none ↔ rows = []
  peak : ∀ t, summary.peakAt = some t → summary.peakIntervalKw = some (intervalKwh rows (some t) / intervalH) ∧
    (∃ r ∈ rows, r.intervalStart = some t) ∧ ∀ r ∈ rows, intervalKwh rows r.intervalStart ≤ intervalKwh rows (some t)

/-- The variables after these rows. -/
structure Tallied (zones : List DirectoryRow) (intervalH : ℚ) (rows : List SimResultRow) (s : Tally) : Prop where
  total : s.total = (rows.map SimResultRow.totalKwh).sum
  hvac : s.hvac = (rows.map SimResultRow.hvacLoadKwh).sum
  lighting : s.lighting = (rows.map SimResultRow.lightingKwh).sum
  plug : s.plug = (rows.map SimResultRow.plugKwh).sum
  unmet : s.unmet =
    if rows.filterMap SimResultRow.unmetHours = [] then none else some (rows.filterMap SimResultRow.unmetHours).sum
  perInterval : ∀ t, s.perInterval.get? t =
    if (rows.filter fun r => r.intervalStart = t) = [] then none else some (intervalKwh rows t)
  warm : s.warm = (rows.map (warmIn (ofList DirectoryRow.id zones) intervalH)).sum
  cool : s.cool = (rows.map (coolIn (ofList DirectoryRow.id zones) intervalH)).sum
  ofZone : ∀ id, s.byZone.get? id =
    if id ∈ zones.map DirectoryRow.id then some (comfortOf (ofList DirectoryRow.id zones) intervalH rows id) else none
  partition : (s.byZone.values.map ZoneComfort.warmH).sum = s.warm

section Step

variable {dir : OrderedMap String DirectoryRow} {intervalH : ℚ} {s : Tally} {r : SimResultRow}

theorem judge_of_none (h : occupiedIn dir r = none) : s.judge dir intervalH r = s := by
  unfold occupiedIn at h
  unfold Tally.judge
  cases hz : dir.get? r.zoneId with
  | none => rfl
  | some z =>
    cases hzone : s.byZone.get? r.zoneId with
    | none => rfl
    | some zc =>
      cases htemp : r.indoorTempC with
      | none => rfl
      | some temp =>
        rw [hz, htemp] at h
        have hout : occupied z r ≠ true := fun hin => absurd h (by simp [hin])
        exact if_neg hout

theorem judge_of_some {z : DirectoryRow} {temp : ℚ} {zc : ZoneComfort} (h : occupiedIn dir r = some (z, temp))
    (hzone : s.byZone.get? r.zoneId = some zc) : s.judge dir intervalH r =
      { s with
        byZone := s.byZone.set r.zoneId
          ⟨some (zc.maxOccupiedC.elim temp fun c => max c temp), zc.warmH + if tooWarm z temp then intervalH else 0⟩
        warm := s.warm + if tooWarm z temp then intervalH else 0
        cool := s.cool + if tooCool z temp then intervalH else 0 } := by
  unfold occupiedIn at h
  unfold Tally.judge
  cases hz : dir.get? r.zoneId with
  | none =>
    rw [hz] at h
    cases h
  | some z' =>
    cases htemp : r.indoorTempC with
    | none =>
      rw [hz, htemp] at h
      cases h
    | some temp' =>
      rw [hz, htemp] at h
      have hin : occupied z' r = true := by
        by_contra hout
        exact absurd h (by simp [hout])
      simp only [hin, if_true, Option.some.injEq, Prod.mk.injEq] at h
      obtain ⟨rfl, rfl⟩ := h
      rw [hzone]
      exact if_pos hin

theorem zone_of_occupiedIn {z : DirectoryRow} {temp : ℚ} (h : occupiedIn dir r = some (z, temp)) :
    (dir.get? r.zoneId).isSome := by
  unfold occupiedIn at h
  cases hz : dir.get? r.zoneId with
  | none =>
    rw [hz] at h
    cases h
  | some z' => rfl

end Step

theorem max?_concat (l : List ℚ) (c : ℚ) : (l ++ [c]).max? = some (l.max?.elim c fun d => max d c) := by
  cases l with
  | nil => rfl
  | cons d l => simp [List.max?, List.foldl_append]

theorem isSome_ofList {id : String} :
    ((ofList DirectoryRow.id zones).get? id).isSome ↔ id ∈ zones.map DirectoryRow.id := by
  rw [get?_ofList, Option.isSome_iff_ne_none, Ne, lastOf_eq_none]
  simp [List.mem_map]

/-- The comfort of a zone after one more row. -/
theorem comfortOf_concat (dir : OrderedMap String DirectoryRow) (intervalH : ℚ) (r : SimResultRow) (id : String) :
    comfortOf dir intervalH (rows ++ [r]) id =
      if r.zoneId = id then
        ⟨(occupiedIn dir r).elim (comfortOf dir intervalH rows id).maxOccupiedC fun e =>
          some ((comfortOf dir intervalH rows id).maxOccupiedC.elim e.2 fun c => max c e.2),
          (comfortOf dir intervalH rows id).warmH + warmIn dir intervalH r⟩
      else comfortOf dir intervalH rows id := by
  by_cases hid : r.zoneId = id
  · cases hin : occupiedIn dir r with
    | none => simp [comfortOf, hid, List.filter_append, List.filterMap_append, hin]
    | some e => simp [comfortOf, hid, List.filter_append, List.filterMap_append, hin, max?_concat]
  · simp [comfortOf, hid, List.filter_append]

theorem intervalKwh_concat (r : SimResultRow) (t : Option ℤ) :
    intervalKwh (rows ++ [r]) t = intervalKwh rows t + if r.intervalStart = t then r.totalKwh else 0 := by
  by_cases ht : r.intervalStart = t <;> simp [intervalKwh, ht, List.filter_append]

theorem Tallied.start (zones : List DirectoryRow) (intervalH : ℚ) : Tallied zones intervalH [] (Tally.start zones) := by
  have hget : ∀ (zs : List DirectoryRow) (m : OrderedMap String ZoneComfort) (id : String),
      (zs.foldl (fun m z => m.set z.id ZoneComfort.start) m).get? id =
        if id ∈ zs.map DirectoryRow.id then some ZoneComfort.start else m.get? id := by
    intro zs
    induction zs with
    | nil => simp
    | cons z zs ih =>
      intro m id
      rw [List.foldl_cons, ih, get?_set]
      by_cases hid : z.id = id <;> by_cases hmem : id ∈ zs.map DirectoryRow.id <;> simp_all [eq_comm]
  have hnone : ∀ v ∈ (Tally.start zones).byZone.values, v = ZoneComfort.start := by
    intro v hv
    obtain ⟨id, hid⟩ := mem_values.mp hv
    have hstart := hget zones .empty id
    rw [show (Tally.start zones).byZone.get? id = _ from hstart] at hid
    split_ifs at hid
    · exact (Option.some.inj hid).symm
    · cases hid
  refine ⟨rfl, rfl, rfl, rfl, rfl, fun t => rfl, rfl, rfl, fun id => ?_, ?_⟩
  · exact hget zones .empty id
  · refine List.sum_eq_zero ?_
    intro h hh
    obtain ⟨v, hv, rfl⟩ := List.mem_map.mp hh
    rw [hnone v hv]
    rfl

/-- **One row** is added to every figure that it belongs to. -/
theorem Tallied.step {zones : List DirectoryRow} {intervalH : ℚ} {s : Tally} (hs : Tallied zones intervalH rows s)
    (r : SimResultRow) : Tallied zones intervalH (rows ++ [r])
      ((s.charge r).judge (ofList DirectoryRow.id zones) intervalH r) := by
  have hunmet : (s.charge r).unmet = if (rows ++ [r]).filterMap SimResultRow.unmetHours = [] then none
      else some ((rows ++ [r]).filterMap SimResultRow.unmetHours).sum := by
    show (match r.unmetHours with
      | some unmet => some (s.unmet.getD 0 + unmet)
      | none => s.unmet) = _
    rw [List.filterMap_append, hs.unmet]
    cases hr : r.unmetHours with
    | none => simp [hr]
    | some unmet =>
      by_cases hnil : rows.filterMap SimResultRow.unmetHours = []
      · simp [hr, hnil]
      · simp [hr, hnil]
  have hinterval : ∀ t, (s.charge r).perInterval.get? t =
      if ((rows ++ [r]).filter fun r => r.intervalStart = t) = [] then none
        else some (intervalKwh (rows ++ [r]) t) := by
    intro t
    have hset : (s.charge r).perInterval.get? t = _ := get?_set _ _ _ _
    rw [hset, hs.perInterval, hs.perInterval, intervalKwh_concat, List.filter_append]
    by_cases ht : r.intervalStart = t
    · by_cases hnil : (rows.filter fun r => r.intervalStart = t) = []
      · have hzero : intervalKwh rows t = 0 := by
          rw [intervalKwh, hnil]
          rfl
        simp [ht, hnil, hzero]
      · simp [ht, hnil]
    · simp [ht]
  have hcharged : (s.charge r).byZone = s.byZone := rfl
  cases hin : occupiedIn (ofList DirectoryRow.id zones) r with
  | none =>
    have hwarm : warmIn (ofList DirectoryRow.id zones) intervalH r = 0 := by
      rw [warmIn, hin]
      rfl
    have hcool : coolIn (ofList DirectoryRow.id zones) intervalH r = 0 := by
      rw [coolIn, hin]
      rfl
    rw [judge_of_none hin]
    refine ⟨?_, ?_, ?_, ?_, hunmet, hinterval, ?_, ?_, fun id => ?_, hs.partition⟩
    · simp [Tally.charge, hs.total]
    · simp [Tally.charge, hs.hvac]
    · simp [Tally.charge, hs.lighting]
    · simp [Tally.charge, hs.plug]
    · simp [Tally.charge, hs.warm, hwarm]
    · simp [Tally.charge, hs.cool, hcool]
    · rw [hcharged, hs.ofZone, comfortOf_concat, hin, hwarm, add_zero]
      by_cases hid : r.zoneId = id
      · rw [if_pos hid]
        rfl
      · rw [if_neg hid]
  | some e =>
    obtain ⟨z, temp⟩ := e
    have hmem : r.zoneId ∈ zones.map DirectoryRow.id := isSome_ofList.mp (zone_of_occupiedIn hin)
    have hzone : (s.charge r).byZone.get? r.zoneId =
        some (comfortOf (ofList DirectoryRow.id zones) intervalH rows r.zoneId) := by
      rw [hcharged, hs.ofZone, if_pos hmem]
    have hwarm : warmIn (ofList DirectoryRow.id zones) intervalH r = if tooWarm z temp then intervalH else 0 := by
      rw [warmIn, hin]
      rfl
    have hcool : coolIn (ofList DirectoryRow.id zones) intervalH r = if tooCool z temp then intervalH else 0 := by
      rw [coolIn, hin]
      rfl
    rw [judge_of_some hin hzone, ← hwarm, ← hcool]
    refine ⟨?_, ?_, ?_, ?_, hunmet, hinterval, ?_, ?_, fun id => ?_, ?_⟩
    · simp [Tally.charge, hs.total]
    · simp [Tally.charge, hs.hvac]
    · simp [Tally.charge, hs.lighting]
    · simp [Tally.charge, hs.plug]
    · simp [Tally.charge, hs.warm]
    · simp [Tally.charge, hs.cool]
    · dsimp only
      rw [get?_set, hcharged, hs.ofZone, comfortOf_concat, hin]
      by_cases hid : r.zoneId = id
      · subst hid
        rw [if_pos rfl, if_pos rfl, if_pos hmem]
        rfl
      · rw [if_neg hid, if_neg hid]
    · dsimp only
      have hsum := sum_values_set ZoneComfort.warmH (s.charge r).byZone r.zoneId
        ⟨some ((comfortOf (ofList DirectoryRow.id zones) intervalH rows r.zoneId).maxOccupiedC.elim temp
          fun c => max c temp),
          (comfortOf (ofList DirectoryRow.id zones) intervalH rows r.zoneId).warmH +
            warmIn (ofList DirectoryRow.id zones) intervalH r⟩
      rw [hzone, hcharged, hs.partition, Option.elim_some] at hsum
      have hkept : (s.charge r).warm = s.warm := rfl
      rw [hcharged, hkept]
      linarith only [hsum]

/-- **All rows** are. -/
theorem tallied (zones : List DirectoryRow) (intervalH : ℚ) (rows : List SimResultRow) :
    Tallied zones intervalH rows (tally zones intervalH rows) := by
  induction rows using List.reverseRecOn with
  | nil => exact Tallied.start zones intervalH
  | append_singleton rows r ih =>
    rw [tally, List.foldl_append]
    exact ih.step r

/-- The peak is an entry that none exceeds. -/
theorem peakStep_spec (l : List (Option ℤ × ℚ)) :
    (l.foldl peakStep none = none ↔ l = []) ∧
      ∀ b, l.foldl peakStep none = some b → b ∈ l ∧ ∀ e ∈ l, e.2 ≤ b.2 := by
  induction l using List.reverseRecOn with
  | nil => simp
  | append_singleton l e ih =>
    obtain ⟨hnone, hsome⟩ := ih
    rw [List.foldl_append, List.foldl_cons, List.foldl_nil]
    cases hbest : l.foldl peakStep none with
    | none =>
      have hnil := hnone.mp hbest
      subst hnil
      simp [peakStep]
    | some b =>
      obtain ⟨hmem, hle⟩ := hsome b hbest
      by_cases hbeat : b.2 < e.2 ∨ e.2 = b.2 ∧ earlier e.1 b.1
      · have hstep : peakStep (some b) e = some e := if_pos hbeat
        have hge : b.2 ≤ e.2 := by
          rcases hbeat with hlt | ⟨heq, -⟩
          · exact hlt.le
          · exact heq.ge
        rw [hstep]
        refine ⟨by simp, fun c hc => ?_⟩
        cases hc
        refine ⟨List.mem_append_right _ List.mem_cons_self, fun d hd => ?_⟩
        rcases List.mem_append.mp hd with hold | hnew
        · exact (hle d hold).trans hge
        · rw [List.mem_singleton.mp hnew]
      · have hstep : peakStep (some b) e = some b := if_neg hbeat
        rw [hstep]
        refine ⟨by simp, fun c hc => ?_⟩
        cases hc
        refine ⟨List.mem_append_left _ hmem, fun d hd => ?_⟩
        rcases List.mem_append.mp hd with hold | hnew
        · exact hle d hold
        · rw [List.mem_singleton.mp hnew]
          exact not_lt.mp fun hlt => hbeat (Or.inl hlt)

theorem entries_perInterval {intervalH : ℚ} {s : Tally} (hs : Tallied zones intervalH rows s) :
    s.perInterval.entries = [] ↔ rows = [] := by
  constructor
  · intro hnil
    by_contra hne
    obtain ⟨r, rows', rfl⟩ := List.exists_cons_of_ne_nil hne
    have hget := hs.perInterval r.intervalStart
    rw [if_neg (by simp)] at hget
    have hmem := mem_entries.mpr hget
    rw [hnil] at hmem
    cases hmem
  · rintro rfl
    by_contra hne
    obtain ⟨e, entries, hentries⟩ := List.exists_cons_of_ne_nil hne
    have hmem : (e.1, e.2) ∈ s.perInterval.entries := hentries ▸ List.mem_cons_self
    have hget := (mem_entries.mp hmem).symm.trans (hs.perInterval e.1)
    cases hget

/-- The figures of the rows of a summary are what they should be. -/
theorem summarised {intervalH : ℚ} {summary : RunSummary} {byZone : OrderedMap String ZoneComfort}
    (h : summariseRun rows zones intervalH = some (summary, byZone)) :
    Summarised rows zones intervalH summary byZone := by
  have hs := tallied zones intervalH rows
  obtain ⟨hnone, hpeak⟩ := peakStep_spec (tally zones intervalH rows).perInterval.entries
  unfold summariseRun at h
  dsimp only at h
  cases hbest : (tally zones intervalH rows).perInterval.entries.foldl peakStep none with
  | none =>
    rw [hbest] at h
    cases h
    refine ⟨hs.total, hs.hvac, hs.lighting, hs.plug, hs.unmet, hs.warm, hs.cool, hs.ofZone, hs.partition, ?_, ?_⟩
    · exact ⟨fun _ => (entries_perInterval hs).mp (hnone.mp hbest), fun _ => rfl⟩
    · intro t ht
      cases ht
  | some best =>
    obtain ⟨at_, kwh⟩ := best
    rw [hbest] at h
    cases at_ with
    | none => cases h
    | some t =>
      cases h
      obtain ⟨hmem, hgreatest⟩ := hpeak _ hbest
      have hget := (hs.perInterval (some t)).symm.trans (mem_entries.mp hmem)
      have hrow : (rows.filter fun r => r.intervalStart = some t) ≠ [] := by
        intro hnil
        rw [if_pos hnil] at hget
        cases hget
      rw [if_neg hrow] at hget
      have hkwh : intervalKwh rows (some t) = kwh := Option.some.inj hget
      refine ⟨hs.total, hs.hvac, hs.lighting, hs.plug, hs.unmet, hs.warm, hs.cool, hs.ofZone, hs.partition, ?_, ?_⟩
      · constructor
        · intro hat
          cases hat
        · intro hrows
          subst hrows
          exact absurd rfl hrow
      · intro t' ht'
        cases ht'
        refine ⟨congrArg (fun k => some (k / intervalH)) hkwh.symm, ?_, fun r hr => ?_⟩
        · obtain ⟨r, hr⟩ := List.exists_mem_of_ne_nil _ hrow
          exact ⟨r, List.mem_of_mem_filter hr, by simpa using (List.mem_filter.mp hr).2⟩
        · have hsome : (rows.filter fun r' => r'.intervalStart = r.intervalStart) ≠ [] :=
            List.ne_nil_of_mem (List.mem_filter.mpr ⟨hr, by simp⟩)
          have hentry := hs.perInterval r.intervalStart
          rw [if_neg hsome] at hentry
          rw [hkwh]
          exact hgreatest _ (mem_entries.mpr hentry)

/-- Rows that all have an instant are summarised. -/
theorem exists_summary (zones : List DirectoryRow) (intervalH : ℚ) (hrows : ∀ r ∈ rows, r.intervalStart ≠ none) :
    ∃ summary byZone, summariseRun rows zones intervalH = some (summary, byZone) := by
  have hs := tallied zones intervalH rows
  obtain ⟨-, hpeak⟩ := peakStep_spec (tally zones intervalH rows).perInterval.entries
  unfold summariseRun
  dsimp only
  cases hbest : (tally zones intervalH rows).perInterval.entries.foldl peakStep none with
  | none => exact ⟨_, _, rfl⟩
  | some best =>
    obtain ⟨at_, kwh⟩ := best
    cases at_ with
    | some t => exact ⟨_, _, rfl⟩
    | none =>
      have hget := (hs.perInterval none).symm.trans (mem_entries.mp (hpeak _ hbest).1)
      split_ifs at hget with hnil
      obtain ⟨r, hr⟩ := List.exists_mem_of_ne_nil _ hnil
      obtain ⟨hmem, hat⟩ := List.mem_filter.mp hr
      exact absurd (by simpa using hat) (hrows r hmem)

/-- The window of a complete run is complete. -/
theorem onePerCell_target {limits : Limits} (plan : SimPlan limits)
    (h : OnePerCell rows plan.zones plan.intervals (plan.w.fromMs - limits.simWarmupH * HOUR_MS)) :
    OnePerCell (target plan.w rows) plan.zones (plan.intervals - limits.simWarmupH) plan.w.fromMs := by
  have hhour : (0 : ℤ) < HOUR_MS := by decide
  have hwhole := plan.whole
  have hafter := plan.after
  obtain ⟨hin, hone⟩ := h
  constructor
  · intro r hr
    obtain ⟨hmem, hwindow⟩ := List.mem_filter.mp hr
    obtain ⟨z, hz, i, hi, hid, hstart⟩ := hin r hmem
    rw [hstart] at hwindow
    have hfrom : plan.w.fromMs ≤ plan.w.fromMs - limits.simWarmupH * HOUR_MS + i * HOUR_MS := by
      rw [Option.any_some] at hwindow
      exact (of_decide_eq_true hwindow).1
    have hwarm : limits.simWarmupH ≤ i := by
      have hmul : (limits.simWarmupH : ℤ) * HOUR_MS ≤ i * HOUR_MS := by linarith only [hfrom]
      exact Int.ofNat_le.mp (Int.le_of_mul_le_mul_right hmul hhour)
    refine ⟨z, hz, i - limits.simWarmupH, by omega, hid, ?_⟩
    rw [hstart, Nat.cast_sub hwarm]
    congr 1
    ring
  · intro z hz i hi
    have hsame : plan.w.fromMs + (i : ℤ) * HOUR_MS =
        plan.w.fromMs - limits.simWarmupH * HOUR_MS + ((i + limits.simWarmupH : ℕ) : ℤ) * HOUR_MS := by
      push_cast
      ring
    have hlt : (i : ℤ) * HOUR_MS < plan.w.toMs - plan.w.fromMs := by
      have hcount : ((i : ℤ) + limits.simWarmupH) < plan.intervals := by omega
      have hmul := Int.mul_lt_mul_of_pos_right hcount hhour
      rw [add_mul, hwhole] at hmul
      linarith only [hmul]
    have hnonneg : (0 : ℤ) ≤ i * HOUR_MS := mul_nonneg (Int.natCast_nonneg i) hhour.le
    rw [target, List.countP_filter, ← hone z hz (i + limits.simWarmupH) (by omega), ← hsame]
    refine List.countP_congr fun r _ => ?_
    constructor
    · intro hboth
      have hcell := (Bool.and_eq_true_iff.mp hboth).1
      exact hcell
    · intro hcell
      have hstart : r.intervalStart = some (plan.w.fromMs + i * HOUR_MS) := (of_decide_eq_true hcell).2
      refine Bool.and_eq_true_iff.mpr ⟨hcell, ?_⟩
      rw [hstart, Option.any_some, decide_eq_true_iff]
      exact ⟨by linarith only [hnonneg], by linarith only [hlt]⟩

/-- **A summary speaks of a complete run only**: complete is one row for each interval of each zone; the figures are the
sums over the rows; and a report of a run is the summary of the window of a complete one. -/
theorem complete_and_summed {limits : Limits} (plan : SimPlan limits) :
    (∀ rows startMs, completeRows rows plan startMs = true ↔ OnePerCell rows plan.zones plan.intervals startMs) ∧
    (∀ rows zones intervalH summary byZone, summariseRun rows zones intervalH = some (summary, byZone) →
      Summarised rows zones intervalH summary byZone) ∧
    ∀ rows reported, report plan rows = .ok reported →
      OnePerCell rows plan.zones plan.intervals (plan.w.fromMs - limits.simWarmupH * HOUR_MS) ∧
      OnePerCell (target plan.w rows) plan.zones (plan.intervals - limits.simWarmupH) plan.w.fromMs ∧
      ∃ summary byZone, reported = some (summary, byZone) ∧
        Summarised (target plan.w rows) plan.zones 1 summary byZone := by
  refine ⟨fun rows startMs => completeRows_iff plan, fun rows zones intervalH summary byZone => summarised, ?_⟩
  intro rows reported hreport
  unfold report runRows at hreport
  split_ifs at hreport with hcomplete
  · have hgrid := (completeRows_iff plan).mp hcomplete
    have htarget := onePerCell_target plan hgrid
    have hinstants : ∀ r ∈ target plan.w rows, r.intervalStart ≠ none := by
      intro r hr hnone
      obtain ⟨z, -, i, -, -, hstart⟩ := htarget.1 r hr
      exact absurd (hnone.symm.trans hstart) (by simp)
    obtain ⟨summary, byZone, hsummary⟩ := exists_summary plan.zones 1 hinstants
    have hok : summariseRun (target plan.w rows) plan.zones 1 = reported := Except.ok.inj hreport
    exact ⟨hgrid, htarget, summary, byZone, hok.symm.trans hsummary, summarised hsummary⟩
  · cases hreport

end DTwin.Copilot.Simulate
