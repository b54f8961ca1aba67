import DTwin.Sim.Physics
import Mathlib.Algebra.BigOperators.Group.List.Basic
import Mathlib.Tactic.LinearCombination
import Mathlib.Tactic.Ring

/-!
# DTwin.Sim.Closure — what moved the zone, and what is reported of it

The energy that a zone has gained over a run against the terms that `run` stores (`acc`) and the plant.  The balance
(`q_net`) has one term that no column has: the heat of the fan at its least flow, while anyone is in
(`energy_step`).  The books close exactly in the runs in which there is none (`closure_iff`).
-/

namespace DTwin.Sim.Physics

variable {K : Type*} [Field K] [LinearOrder K]

/-! ## What is stored -/

/-- The named terms of a substep. -/
def StepResult.namedW (r : StepResult K) : K :=
  r.qSolarW + r.qLightW + r.qEquipW + r.qPeopleW + r.qEnvelopeW + r.qVentilationW

/-- What the plant adds to the zone. -/
def StepResult.plantW (r : StepResult K) : K := r.heatingW - r.coolingW

/-- `acc` of an interval, in kWh. -/
structure Stored (K : Type*) where
  solar : K
  internal : K
  envelope : K
  ventilation : K

def Stored.add (dt : K) (acc : Stored K) (r : StepResult K) : Stored K :=
  let kwh := dt / J_PER_KWH
  { solar := acc.solar + r.qSolarW * kwh
    internal := acc.internal + (r.qLightW + r.qEquipW + r.qPeopleW) * kwh
    envelope := acc.envelope + r.qEnvelopeW * kwh
    ventilation := acc.ventilation + r.qVentilationW * kwh }

/-- The row of an interval. -/
def storedOf (dt : K) (interval : List (StepResult K)) : Stored K := interval.foldl (Stored.add dt) ⟨0, 0, 0, 0⟩

def Stored.total (row : Stored K) : K := row.solar + row.internal + row.envelope + row.ventilation

omit [LinearOrder K] in
theorem total_add (dt : K) (acc : Stored K) (r : StepResult K) :
    (acc.add dt r).total = acc.total + r.namedW * (dt / J_PER_KWH) := by
  unfold Stored.total Stored.add StepResult.namedW
  ring

omit [LinearOrder K] in
theorem total_foldl (dt : K) : ∀ (rs : List (StepResult K)) (acc : Stored K),
    (rs.foldl (Stored.add dt) acc).total = acc.total + (rs.map StepResult.namedW).sum * (dt / J_PER_KWH)
  | [], acc => by simp
  | r :: rs, acc => by
    rw [List.foldl_cons, total_foldl dt rs, total_add, List.map_cons, List.sum_cons]
    ring

omit [LinearOrder K] in
/-- The rows of a run hold all named terms, wherever the intervals are cut. -/
theorem total_rows (dt : K) : ∀ intervals : List (List (StepResult K)),
    ((intervals.map (storedOf dt)).map Stored.total).sum =
      ((intervals.flatten).map StepResult.namedW).sum * (dt / J_PER_KWH)
  | [] => by simp
  | interval :: intervals => by
    have hzero : (⟨0, 0, 0, 0⟩ : Stored K).total = 0 := by simp [Stored.total]
    have hrow : (storedOf dt interval).total = (interval.map StepResult.namedW).sum * (dt / J_PER_KWH) := by
      rw [storedOf, total_foldl, hzero, zero_add]
    rw [List.map_cons, List.map_cons, List.sum_cons, total_rows dt intervals, hrow, List.flatten_cons, List.map_append,
      List.sum_append]
    ring

/-! ## What moved the zone -/

variable {z : Zone K} {p : Plant K} {dt : K}

/-- **One substep**: the zone gains the named terms, what the plant adds, and the heat of the fan at its least flow. -/
theorem energy_step (hmass : z.thermalCapacityJK ≠ 0) (temperature : K) (x : Exposure K) :
    let r := integrateSubstep z p temperature x dt
    z.thermalCapacityJK * (r.temperature - temperature) =
      dt * (r.namedW + r.plantW + z.fanFloorW x p.designFanW) := by
  intro r
  have hnet : r.namedW + z.fanFloorW x p.designFanW = z.qNetW x p.designFanW temperature := by
    show z.qSolarW x + z.qLightW x + z.qEquipW x + z.qPeopleW x + z.uaEnvelope * (x.tOut - temperature) +
      (z.uaInfiltration * (x.tOut - temperature) + z.uaVentilation x * (x.tOut - temperature)) +
      z.fanFloorW x p.designFanW = _
    unfold Zone.qNetW HEAT_TO_AIRSTREAM_FRACTION
    ring
  have hstep : r.temperature =
      temperature + z.qNetW x p.designFanW temperature * dt / z.thermalCapacityJK +
        r.plantW * dt / z.thermalCapacityJK :=
    rfl
  rw [hstep, ← hnet]
  field_simp
  ring

/-- **Over a run** the fan's heat adds up. -/
theorem energy_run (hmass : z.thermalCapacityJK ≠ 0) (p : Plant K) (dt : K) :
    ∀ (xs : List (Exposure K)) (temperature : K),
    z.thermalCapacityJK * ((substeps z p dt temperature xs).1 - temperature) =
      dt * (((substeps z p dt temperature xs).2.map StepResult.namedW).sum
        + ((substeps z p dt temperature xs).2.map StepResult.plantW).sum
        + (xs.map fun x => z.fanFloorW x p.designFanW).sum)
  | [], temperature => by simp [substeps]
  | x :: xs, temperature => by
    have hstep : z.thermalCapacityJK * ((integrateSubstep z p temperature x dt).temperature - temperature) =
        dt * ((integrateSubstep z p temperature x dt).namedW + (integrateSubstep z p temperature x dt).plantW +
          z.fanFloorW x p.designFanW) := energy_step hmass temperature x
    have hrest := energy_run hmass p dt xs (integrateSubstep z p temperature x dt).temperature
    simp only [substeps, List.map_cons, List.sum_cons] at hstep hrest ⊢
    linear_combination hstep + hrest

section Fan

variable [IsStrictOrderedRing K]

theorem partLoad_min_pos : (0 : K) < partLoadPowerFraction MIN_FLOW_FRACTION := by
  have hclip : clip (MIN_FLOW_FRACTION : K) 0 1 = 3 / 10 := by
    have hlow : max (3 / 10 : K) 0 = 3 / 10 := max_eq_left (by norm_num)
    have hhigh : min (3 / 10 : K) 1 = 3 / 10 := min_eq_left (by norm_num)
    rw [clip, MIN_FLOW_FRACTION, hlow, hhigh]
  simp only [partLoadPowerFraction, hclip]
  norm_num

theorem fanFloorW_eq (x : Exposure K) (designFanW : K) :
    z.fanFloorW x designFanW =
      if 0 < z.occupants x then designFanW * partLoadPowerFraction MIN_FLOW_FRACTION else 0 := by
  have hmin : (0 : K) < MIN_FLOW_FRACTION := by
    unfold MIN_FLOW_FRACTION
    norm_num
  unfold Zone.fanFloorW Zone.ventilating fanPowerW
  by_cases hin : 0 < z.occupants x
  · simp [hin, hmin]
  · simp [hin]

/-- The fan heats the zone in all substeps in which anyone is in, and alike. -/
theorem sum_fanFloorW (designFanW : K) : ∀ xs : List (Exposure K),
    (xs.map fun x => z.fanFloorW x designFanW).sum =
      (xs.countP fun x => 0 < z.occupants x) * (designFanW * partLoadPowerFraction MIN_FLOW_FRACTION)
  | [] => by simp
  | x :: xs => by
    rw [List.map_cons, List.sum_cons, sum_fanFloorW designFanW xs, fanFloorW_eq, List.countP_cons]
    by_cases hin : 0 < z.occupants x
    · simp [hin]
      ring
    · simp [hin]

theorem sum_fanFloorW_eq_zero (designFanW : K) (xs : List (Exposure K)) :
    (xs.map fun x => z.fanFloorW x designFanW).sum = 0 ↔ designFanW = 0 ∨ ∀ x ∈ xs, z.occupants x ≤ 0 := by
  have hpos : partLoadPowerFraction (MIN_FLOW_FRACTION : K) ≠ 0 := partLoad_min_pos.ne'
  rw [sum_fanFloorW, mul_eq_zero, mul_eq_zero, or_iff_left hpos, Nat.cast_eq_zero, List.countP_eq_zero, or_comm]
  simp

end Fan

/-! ## The books -/

/-- The zone's gain is what the named terms and the plant have brought. -/
def Closed (z : Zone K) (p : Plant K) (dt temperature : K) (xs : List (Exposure K)) : Prop :=
  z.thermalCapacityJK * ((substeps z p dt temperature xs).1 - temperature) =
    dt * ((substeps z p dt temperature xs).2.map StepResult.namedW).sum +
      dt * ((substeps z p dt temperature xs).2.map StepResult.plantW).sum

/-- The same of the energies in the rows of the run, cut into intervals. -/
def StoredClosed (z : Zone K) (p : Plant K) (dt temperature : K) (xs : List (Exposure K)) : Prop :=
  ∀ intervals : List (List (StepResult K)), intervals.flatten = (substeps z p dt temperature xs).2 →
    z.thermalCapacityJK * ((substeps z p dt temperature xs).1 - temperature) =
      J_PER_KWH * ((intervals.map (storedOf dt)).map Stored.total).sum +
        dt * ((substeps z p dt temperature xs).2.map StepResult.plantW).sum

variable [IsStrictOrderedRing K]

theorem storedClosed_iff (z : Zone K) (p : Plant K) (dt temperature : K) (xs : List (Exposure K)) :
    StoredClosed z p dt temperature xs ↔ Closed z p dt temperature xs := by
  have hkwh : (J_PER_KWH : K) ≠ 0 := by
    unfold J_PER_KWH
    norm_num
  have hrows : ∀ intervals : List (List (StepResult K)), intervals.flatten = (substeps z p dt temperature xs).2 →
      J_PER_KWH * ((intervals.map (storedOf dt)).map Stored.total).sum =
        dt * ((substeps z p dt temperature xs).2.map StepResult.namedW).sum := by
    intro intervals hcut
    rw [total_rows, hcut]
    field_simp
  unfold StoredClosed Closed
  constructor
  · intro hstored
    have hcut : ([(substeps z p dt temperature xs).2] : List (List (StepResult K))).flatten =
        (substeps z p dt temperature xs).2 := List.flatten_singleton
    have hone := hstored [_] hcut
    rw [hrows _ hcut] at hone
    exact hone
  · intro hclosed intervals hcut
    rw [hrows intervals hcut]
    exact hclosed

/-- **The books close** over a run, those of the substeps and those of the rows, exactly if the zone has no fan or no
one is in. -/
theorem closure_iff (z : Zone K) (p : Plant K) (dt temperature : K) (xs : List (Exposure K))
    (hmass : 0 < z.thermalCapacityJK) (hdt : 0 < dt) :
    (Closed z p dt temperature xs ∧ StoredClosed z p dt temperature xs) ↔
      p.designFanW = 0 ∨ ∀ x ∈ xs, z.occupants x ≤ 0 := by
  rw [storedClosed_iff, and_self, ← sum_fanFloorW_eq_zero]
  have hrun := energy_run hmass.ne' p dt xs temperature
  have hclosed : Closed z p dt temperature xs ↔ dt * (xs.map fun x => z.fanFloorW x p.designFanW).sum = 0 := by
    unfold Closed
    rw [hrun]
    constructor
    · intro h
      linear_combination h
    · intro h
      linear_combination h
  rw [hclosed, mul_eq_zero, or_iff_right hdt.ne']

/-- An office of 100 m², ten people and no window. -/
def office : Zone ℚ where
  windowArea := 0
  shgc := 4 / 10
  thermalCapacityJK := 2000000
  uaEnvelope := 0
  uaInfiltration := 0
  lightingW := 1000
  equipmentW := 1500
  designOccupancy := 10
  occupancyGainW := 744 / 10
  occupancyLatentW := 456 / 10
  ventilationM3SPerson := 1 / 100
  setpoint := 24
  deadband := 1
  cop := 3
  capacityW := 10000

/-- A day at 35 °C, with everyone in. -/
def atWork : Exposure ℚ := ⟨35, 0, 1, 14 / 1000⟩

/-- Without a fan the books close. -/
theorem closure_iff_office : Closed office ⟨9 / 1000, 0⟩ 300 24 [atWork, atWork] ∧
    StoredClosed office ⟨9 / 1000, 0⟩ 300 24 [atWork, atWork] :=
  (closure_iff office ⟨9 / 1000, 0⟩ 300 24 [atWork, atWork] (by norm_num [office]) (by norm_num)).mpr (Or.inl rfl)

/-- **The fan's heat is in no column**: with one they do not close. -/
theorem unnamed_heat : ¬ Closed office ⟨9 / 1000, 2000⟩ 300 24 [atWork] := by
  unfold Closed
  decide +kernel

end DTwin.Sim.Physics
