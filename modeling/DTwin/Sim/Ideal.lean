import DTwin.Sim.Physics
import Mathlib.Algebra.BigOperators.Group.List.Basic
import Mathlib.Tactic.LinearCombination
import Mathlib.Tactic.Ring

/-!
# DTwin.Sim.Ideal — ideal-loads control

The plant of `integrate_substep` brings the free float to the nearest edge of the band and no further, as far as its
capacity goes (`substep_within`, `substep_beyond`).  A zone that its load holds at an edge stays there whatever the
substeps are (`under_pinned`).  A zone that drifts away from the edge is stepped by Euler's rule, and where it gets to
depends on the substeps.
-/

namespace DTwin.Sim.Physics

variable {K : Type*} [Field K] [LinearOrder K]

theorem clip_within {v c : K} (hv : 0 ≤ v) (hc : v ≤ c) : clip v 0 c = v := by
  rw [clip, max_eq_left hv, min_eq_left hc]

theorem clip_beyond {v c : K} (hv : 0 ≤ v) (hc : c ≤ v) : clip v 0 c = c := by
  rw [clip, max_eq_left hv, min_eq_right hc]

variable {z : Zone K} {p : Plant K} {temperature dt : K} {x : Exposure K}

/-- What a substep does to the temperature. -/
theorem temperature_eq : (integrateSubstep z p temperature x dt).temperature =
    z.freeFloat x p.designFanW temperature dt +
      ((integrateSubstep z p temperature x dt).heatingW - (integrateSubstep z p temperature x dt).coolingW) * dt /
        z.thermalCapacityJK := rfl

theorem coolingNeedW_of_lt (h : z.upper < z.freeFloat x p.designFanW temperature dt) :
    z.coolingNeedW x p.designFanW temperature dt =
      (z.freeFloat x p.designFanW temperature dt - z.upper) * (z.thermalCapacityJK / dt) := if_pos h

theorem coolingNeedW_of_le (h : z.freeFloat x p.designFanW temperature dt ≤ z.upper) :
    z.coolingNeedW x p.designFanW temperature dt = 0 := if_neg (not_lt.mpr h)

theorem heatingNeedW_of_lt (h : z.freeFloat x p.designFanW temperature dt < z.lower) :
    z.heatingNeedW x p.designFanW temperature dt =
      (z.lower - z.freeFloat x p.designFanW temperature dt) * (z.thermalCapacityJK / dt) := if_pos h

theorem heatingNeedW_of_le (h : z.lower ≤ z.freeFloat x p.designFanW temperature dt) :
    z.heatingNeedW x p.designFanW temperature dt = 0 := if_neg (not_lt.mpr h)

theorem coolingW_of_need (hcap : 0 ≤ z.capacityW) (h : z.coolingNeedW x p.designFanW temperature dt = 0) :
    (integrateSubstep z p temperature x dt).coolingW = 0 := by
  show clip (z.coolingNeedW x p.designFanW temperature dt) 0 z.capacityW = 0
  rw [h]
  exact clip_within le_rfl hcap

theorem heatingW_of_need (hcap : 0 ≤ z.capacityW) (h : z.heatingNeedW x p.designFanW temperature dt = 0) :
    (integrateSubstep z p temperature x dt).heatingW = 0 := by
  show clip (z.heatingNeedW x p.designFanW temperature dt) 0 z.capacityW = 0
  rw [h]
  exact clip_within le_rfl hcap

variable [IsStrictOrderedRing K]

section Needs

variable (hmass : 0 < z.thermalCapacityJK) (hdt : 0 < dt)

include hmass hdt

theorem perKelvin_pos : 0 < z.thermalCapacityJK / dt := div_pos hmass hdt

theorem coolingNeedW_nonneg : 0 ≤ z.coolingNeedW x p.designFanW temperature dt := by
  have hper := perKelvin_pos hmass hdt
  unfold Zone.coolingNeedW
  dsimp only
  split_ifs with hfloat
  · exact mul_nonneg (sub_nonneg.mpr hfloat.le) hper.le
  · exact le_rfl

theorem heatingNeedW_nonneg : 0 ≤ z.heatingNeedW x p.designFanW temperature dt := by
  have hper := perKelvin_pos hmass hdt
  unfold Zone.heatingNeedW
  dsimp only
  split_ifs with hfloat
  · exact mul_nonneg (sub_nonneg.mpr hfloat.le) hper.le
  · exact le_rfl

end Needs

theorem lower_le_upper (hband : 0 ≤ z.deadband) : z.lower ≤ z.upper := by
  unfold Zone.lower Zone.upper
  linarith

/-- What is needed is needed on one side of the band only. -/
theorem one_need (hband : 0 ≤ z.deadband) :
    z.coolingNeedW x p.designFanW temperature dt = 0 ∨ z.heatingNeedW x p.designFanW temperature dt = 0 := by
  by_cases hfloat : z.freeFloat x p.designFanW temperature dt ≤ z.upper
  · exact Or.inl (coolingNeedW_of_le hfloat)
  · have hedges := lower_le_upper hband
    exact Or.inr (heatingNeedW_of_le (hedges.trans (not_le.mp hfloat).le))

/-- **Within capacity** the plant lands on the nearest edge. -/
theorem substep_within (hmass : 0 < z.thermalCapacityJK) (hband : 0 ≤ z.deadband) (hdt : 0 < dt)
    (hcool : z.coolingNeedW x p.designFanW temperature dt ≤ z.capacityW)
    (hheat : z.heatingNeedW x p.designFanW temperature dt ≤ z.capacityW) :
    (integrateSubstep z p temperature x dt).temperature =
      clip (z.freeFloat x p.designFanW temperature dt) z.lower z.upper := by
  have hcooling : (integrateSubstep z p temperature x dt).coolingW = z.coolingNeedW x p.designFanW temperature dt :=
    clip_within (coolingNeedW_nonneg hmass hdt) hcool
  have hheating : (integrateSubstep z p temperature x dt).heatingW = z.heatingNeedW x p.designFanW temperature dt :=
    clip_within (heatingNeedW_nonneg hmass hdt) hheat
  have hedges := lower_le_upper hband
  have hmass' := hmass.ne'
  have hdt' := hdt.ne'
  rw [temperature_eq, hcooling, hheating]
  rcases lt_or_ge z.upper (z.freeFloat x p.designFanW temperature dt) with hover | hover
  · have hclip : clip (z.freeFloat x p.designFanW temperature dt) z.lower z.upper = z.upper := by
      rw [clip, max_eq_left (hedges.trans hover.le), min_eq_right hover.le]
    rw [hclip, coolingNeedW_of_lt hover, heatingNeedW_of_le (hedges.trans hover.le)]
    field_simp
    ring
  · rcases lt_or_ge (z.freeFloat x p.designFanW temperature dt) z.lower with hunder | hunder
    · have hclip : clip (z.freeFloat x p.designFanW temperature dt) z.lower z.upper = z.lower := by
        rw [clip, max_eq_right hunder.le, min_eq_left hedges]
      rw [hclip, coolingNeedW_of_le hover, heatingNeedW_of_lt hunder]
      field_simp
      ring
    · have hclip : clip (z.freeFloat x p.designFanW temperature dt) z.lower z.upper =
          z.freeFloat x p.designFanW temperature dt := by
        rw [clip, max_eq_left hunder, min_eq_left hover]
      rw [hclip, coolingNeedW_of_le hover, heatingNeedW_of_le hunder]
      ring

/-- **Beyond capacity** all of it is applied, and the edge is not reached. -/
theorem substep_beyond (hmass : 0 < z.thermalCapacityJK) (hcap : 0 ≤ z.capacityW) (hband : 0 ≤ z.deadband)
    (hdt : 0 < dt) :
    (z.capacityW < z.coolingNeedW x p.designFanW temperature dt →
      (integrateSubstep z p temperature x dt).coolingW = z.capacityW ∧
      z.upper < (integrateSubstep z p temperature x dt).temperature ∧
      (integrateSubstep z p temperature x dt).temperature ≤ z.freeFloat x p.designFanW temperature dt ∧
      (0 < z.capacityW →
        (integrateSubstep z p temperature x dt).temperature < z.freeFloat x p.designFanW temperature dt)) ∧
    (z.capacityW < z.heatingNeedW x p.designFanW temperature dt →
      (integrateSubstep z p temperature x dt).heatingW = z.capacityW ∧
      (integrateSubstep z p temperature x dt).temperature < z.lower ∧
      z.freeFloat x p.designFanW temperature dt ≤ (integrateSubstep z p temperature x dt).temperature ∧
      (0 < z.capacityW →
        z.freeFloat x p.designFanW temperature dt < (integrateSubstep z p temperature x dt).temperature)) := by
  have hedges := lower_le_upper hband
  have hstep : 0 < dt / z.thermalCapacityJK := div_pos hdt hmass
  -- a need above the capacity moves the zone further than the capacity does
  have hreach : ∀ {gap : K}, z.capacityW < gap * (z.thermalCapacityJK / dt) →
      z.capacityW * (dt / z.thermalCapacityJK) < gap := by
    intro gap hneed
    have hmoved := mul_lt_mul_of_pos_right hneed hstep
    have hone : gap * (z.thermalCapacityJK / dt) * (dt / z.thermalCapacityJK) = gap := by
      have hmass' := hmass.ne'
      have hdt' := hdt.ne'
      field_simp
    rwa [hone] at hmoved
  have happlied : 0 ≤ z.capacityW * (dt / z.thermalCapacityJK) := mul_nonneg hcap hstep.le
  constructor
  · intro hneed
    have hover : z.upper < z.freeFloat x p.designFanW temperature dt := by
      by_contra hle
      rw [coolingNeedW_of_le (not_lt.mp hle)] at hneed
      exact absurd hneed (not_lt.mpr hcap)
    have hcooling : (integrateSubstep z p temperature x dt).coolingW = z.capacityW :=
      clip_beyond (coolingNeedW_nonneg hmass hdt) hneed.le
    have hheating := heatingW_of_need hcap (heatingNeedW_of_le (hedges.trans hover.le))
    have htemperature : (integrateSubstep z p temperature x dt).temperature =
        z.freeFloat x p.designFanW temperature dt - z.capacityW * (dt / z.thermalCapacityJK) := by
      rw [temperature_eq, hcooling, hheating]
      ring
    rw [coolingNeedW_of_lt hover] at hneed
    have hshort := hreach hneed
    refine ⟨hcooling, ?_, ?_, fun hpos => ?_⟩
    · rw [htemperature]
      linarith
    · rw [htemperature]
      linarith
    · have happlied' : 0 < z.capacityW * (dt / z.thermalCapacityJK) := mul_pos hpos hstep
      rw [htemperature]
      linarith
  · intro hneed
    have hunder : z.freeFloat x p.designFanW temperature dt < z.lower := by
      by_contra hle
      rw [heatingNeedW_of_le (not_lt.mp hle)] at hneed
      exact absurd hneed (not_lt.mpr hcap)
    have hheating : (integrateSubstep z p temperature x dt).heatingW = z.capacityW :=
      clip_beyond (heatingNeedW_nonneg hmass hdt) hneed.le
    have hcooling := coolingW_of_need hcap (coolingNeedW_of_le (hunder.le.trans hedges))
    have htemperature : (integrateSubstep z p temperature x dt).temperature =
        z.freeFloat x p.designFanW temperature dt + z.capacityW * (dt / z.thermalCapacityJK) := by
      rw [temperature_eq, hcooling, hheating]
      ring
    rw [heatingNeedW_of_lt hunder] at hneed
    have hshort := hreach hneed
    refine ⟨hheating, ?_, ?_, fun hpos => ?_⟩
    · rw [htemperature]
      linarith
    · rw [htemperature]
      linarith
    · have happlied' : 0 < z.capacityW * (dt / z.thermalCapacityJK) := mul_pos hpos hstep
      rw [htemperature]
      linarith

/-! ## Substeps of any lengths -/

omit [IsStrictOrderedRing K] in
/-- The final temperature and the sensible energy of cooling and of heating, after substeps of these lengths under
constant conditions. -/
def under (z : Zone K) (p : Plant K) (x : Exposure K) : K → List K → K × K × K
  | temperature, [] => (temperature, 0, 0)
  | temperature, dt :: dts =>
    let r := integrateSubstep z p temperature x dt
    let rest := under z p x r.temperature dts
    (rest.1, r.coolingW * dt + rest.2.1, r.heatingW * dt + rest.2.2)

/-- The load holds the zone at this edge of the band. -/
def Zone.Pinned (z : Zone K) (p : Plant K) (x : Exposure K) (edge : K) : Prop :=
  (edge = z.upper ∧ 0 ≤ z.qNetW x p.designFanW edge) ∨ (edge = z.lower ∧ z.qNetW x p.designFanW edge ≤ 0)

/-- A substep leaves a zone at the edge that it is pinned to, and removes what comes in or makes up what goes out. -/
theorem substep_pinned (hmass : 0 < z.thermalCapacityJK) (hband : 0 ≤ z.deadband) {edge : K}
    (hpinned : z.Pinned p x edge)
    (hsufficient : |z.qNetW x p.designFanW edge| ≤ z.capacityW) (hdt : 0 < dt) :
    (integrateSubstep z p edge x dt).temperature = edge ∧
      (integrateSubstep z p edge x dt).coolingW = max (z.qNetW x p.designFanW edge) 0 ∧
      (integrateSubstep z p edge x dt).heatingW = max (-z.qNetW x p.designFanW edge) 0 := by
  have hedges := lower_le_upper hband
  have hmass' := hmass.ne'
  have hdt' := hdt.ne'
  have hstep : 0 < dt / z.thermalCapacityJK := div_pos hdt hmass
  have hcap : 0 ≤ z.capacityW := (abs_nonneg _).trans hsufficient
  have hfloat : z.freeFloat x p.designFanW edge dt =
      edge + z.qNetW x p.designFanW edge * (dt / z.thermalCapacityJK) := by
    unfold Zone.freeFloat
    ring
  rcases hpinned with ⟨rfl, hload⟩ | ⟨rfl, hload⟩
  · have hrise : 0 ≤ z.qNetW x p.designFanW z.upper * (dt / z.thermalCapacityJK) := mul_nonneg hload hstep.le
    have hneed : z.coolingNeedW x p.designFanW z.upper dt = z.qNetW x p.designFanW z.upper := by
      rcases hload.eq_or_lt with hzero | hpos
      · have hsame : z.freeFloat x p.designFanW z.upper dt = z.upper := by
          rw [hfloat, ← hzero, zero_mul, add_zero]
        rw [coolingNeedW_of_le hsame.le, ← hzero]
      · have hover : z.upper < z.freeFloat x p.designFanW z.upper dt := by
          rw [hfloat]
          linarith [mul_pos hpos hstep]
        rw [coolingNeedW_of_lt hover, hfloat]
        field_simp
        ring
    have hnone : z.heatingNeedW x p.designFanW z.upper dt = 0 := by
      refine heatingNeedW_of_le ?_
      rw [hfloat]
      linarith
    have hheating := heatingW_of_need hcap hnone
    have hcooling : (integrateSubstep z p z.upper x dt).coolingW = z.qNetW x p.designFanW z.upper := by
      show clip (z.coolingNeedW x p.designFanW z.upper dt) 0 z.capacityW = z.qNetW x p.designFanW z.upper
      rw [hneed]
      exact clip_within hload ((le_abs_self _).trans hsufficient)
    refine ⟨?_, hcooling.trans (max_eq_left hload).symm, hheating.trans (max_eq_right (neg_nonpos.mpr hload)).symm⟩
    rw [temperature_eq, hheating, hcooling, hfloat]
    ring
  · have hfall : z.qNetW x p.designFanW z.lower * (dt / z.thermalCapacityJK) ≤ 0 :=
      mul_nonpos_of_nonpos_of_nonneg hload hstep.le
    have hneed : z.heatingNeedW x p.designFanW z.lower dt = -z.qNetW x p.designFanW z.lower := by
      rcases hload.eq_or_lt with hzero | hneg
      · have hsame : z.freeFloat x p.designFanW z.lower dt = z.lower := by
          rw [hfloat, hzero, zero_mul, add_zero]
        rw [heatingNeedW_of_le hsame.ge, hzero, neg_zero]
      · have hunder : z.freeFloat x p.designFanW z.lower dt < z.lower := by
          rw [hfloat]
          linarith [mul_neg_of_neg_of_pos hneg hstep]
        rw [heatingNeedW_of_lt hunder, hfloat]
        field_simp
        ring
    have hnone : z.coolingNeedW x p.designFanW z.lower dt = 0 := by
      refine coolingNeedW_of_le ?_
      rw [hfloat]
      linarith
    have hcooling := coolingW_of_need hcap hnone
    have hheating : (integrateSubstep z p z.lower x dt).heatingW = -z.qNetW x p.designFanW z.lower := by
      show clip (z.heatingNeedW x p.designFanW z.lower dt) 0 z.capacityW = -z.qNetW x p.designFanW z.lower
      rw [hneed]
      exact clip_within (neg_nonneg.mpr hload) ((neg_le_abs _).trans hsufficient)
    refine ⟨?_, hcooling.trans (max_eq_right hload).symm, hheating.trans (max_eq_left (neg_nonneg.mpr hload)).symm⟩
    rw [temperature_eq, hheating, hcooling, hfloat]
    ring

/-- **A pinned zone** stays, and what is removed or made up is the load times the time. -/
theorem under_pinned (hmass : 0 < z.thermalCapacityJK) (hband : 0 ≤ z.deadband) {edge : K} (hpinned : z.Pinned p x edge)
    (hsufficient : |z.qNetW x p.designFanW edge| ≤ z.capacityW) : ∀ dts : List K, (∀ dt ∈ dts, 0 < dt) →
      under z p x edge dts =
        (edge, max (z.qNetW x p.designFanW edge) 0 * dts.sum, max (-z.qNetW x p.designFanW edge) 0 * dts.sum)
  | [], _ => by simp [under]
  | dt :: dts, hdts => by
    obtain ⟨htemperature, hcooling, hheating⟩ :=
      substep_pinned hmass hband hpinned hsufficient (hdts dt List.mem_cons_self)
    have hrest := under_pinned hmass hband hpinned hsufficient dts fun d hd => hdts d (List.mem_cons_of_mem dt hd)
    simp only [under, htemperature, hcooling, hheating, hrest, List.sum_cons]
    rw [mul_add, mul_add]

/-- **Ideal-loads control.**  A substep never heats and cools; within capacity it leaves the free float clamped to the
band, and beyond it the zone short of the edge.  Where the load holds the zone at an edge, neither the temperature nor
the energy of cooling and of heating depends on the substeps. -/
theorem ideal_loads (z : Zone K) (p : Plant K) (hmass : 0 < z.thermalCapacityJK) (hcap : 0 ≤ z.capacityW)
    (hband : 0 ≤ z.deadband) :
    (∀ (temperature dt : K) (x : Exposure K), 0 < dt →
      let r := integrateSubstep z p temperature x dt
      let float := z.freeFloat x p.designFanW temperature dt
      (r.coolingW = 0 ∨ r.heatingW = 0) ∧
      (z.coolingNeedW x p.designFanW temperature dt ≤ z.capacityW →
        z.heatingNeedW x p.designFanW temperature dt ≤ z.capacityW → r.temperature = clip float z.lower z.upper) ∧
      (z.capacityW < z.coolingNeedW x p.designFanW temperature dt →
        r.coolingW = z.capacityW ∧ z.upper < r.temperature ∧ r.temperature ≤ float ∧
          (0 < z.capacityW → r.temperature < float)) ∧
      (z.capacityW < z.heatingNeedW x p.designFanW temperature dt →
        r.heatingW = z.capacityW ∧ r.temperature < z.lower ∧ float ≤ r.temperature ∧
          (0 < z.capacityW → float < r.temperature))) ∧
    ∀ (x : Exposure K) (edge : K), z.Pinned p x edge → |z.qNetW x p.designFanW edge| ≤ z.capacityW →
      ∀ dts dts' : List K, (∀ dt ∈ dts, 0 < dt) → (∀ dt ∈ dts', 0 < dt) → dts.sum = dts'.sum →
        under z p x edge dts = under z p x edge dts' := by
  refine ⟨fun temperature dt x hdt => ?_, fun x edge hpinned hsufficient dts dts' hdts hdts' hsum => ?_⟩
  · refine ⟨?_, substep_within hmass hband hdt, substep_beyond hmass hcap hband hdt⟩
    have hone : z.coolingNeedW x p.designFanW temperature dt = 0 ∨ z.heatingNeedW x p.designFanW temperature dt = 0 :=
      one_need hband
    rcases hone with hneed | hneed
    · exact Or.inl (coolingW_of_need hcap hneed)
    · exact Or.inr (heatingW_of_need hcap hneed)
  · rw [under_pinned hmass hband hpinned hsufficient dts hdts,
      under_pinned hmass hband hpinned hsufficient dts' hdts', hsum]

/-- A room with a wall to the outside, and plant of this capacity. -/
def room (capacityW : ℚ) : Zone ℚ where
  windowArea := 0
  shgc := 4 / 10
  thermalCapacityJK := 2000000
  uaEnvelope := 200
  uaInfiltration := 0
  lightingW := 0
  equipmentW := 0
  designOccupancy := 0
  occupancyGainW := 0
  occupancyLatentW := 0
  ventilationM3SPerson := 0
  setpoint := 24
  deadband := 2
  cop := 3
  capacityW := capacityW

/-- Nobody in, at this temperature outside. -/
def empty (tOut : ℚ) : Exposure ℚ := ⟨tOut, 0, 0, 0⟩

/-- Held at 25 °C from a hot day, in three substeps or in two. -/
theorem ideal_loads_room :
    under (room 5000) ⟨0, 0⟩ (empty 38) 25 [300, 300, 300] = under (room 5000) ⟨0, 0⟩ (empty 38) 25 [600, 300] :=
  (ideal_loads (room 5000) ⟨0, 0⟩ (by norm_num [room]) (by norm_num [room]) (by norm_num [room])).2 (empty 38) 25
    (Or.inl ⟨by norm_num [room, Zone.upper], by decide +kernel⟩) (by decide +kernel) [300, 300, 300] [600, 300]
    (by decide +kernel) (by decide +kernel) (by norm_num)

/-- Without plant a zone is left at its free float; and from the edge of the band, on a cold day, it gets to another
temperature in two substeps than in one. -/
theorem float_by_steps :
    ¬ (∀ (z : Zone ℚ) (p : Plant ℚ) (temperature dt : ℚ) (x : Exposure ℚ), 0 < z.thermalCapacityJK → 0 ≤ z.capacityW →
      0 ≤ z.deadband → 0 < dt → z.capacityW < z.coolingNeedW x p.designFanW temperature dt →
      z.upper < (integrateSubstep z p temperature x dt).temperature ∧
        (integrateSubstep z p temperature x dt).temperature < z.freeFloat x p.designFanW temperature dt) ∧
    ¬ ∀ (z : Zone ℚ) (p : Plant ℚ) (x : Exposure ℚ), 0 < z.thermalCapacityJK → 0 ≤ z.deadband →
      |z.qNetW x p.designFanW z.upper| ≤ z.capacityW → ∀ dts dts' : List ℚ, (∀ dt ∈ dts, 0 < dt) →
      (∀ dt ∈ dts', 0 < dt) → dts.sum = dts'.sum →
        (under z p x z.upper dts).1 = (under z p x z.upper dts').1 ∧
          (under z p x z.upper dts).2.1 = (under z p x z.upper dts').2.1 := by
  constructor
  · intro hclaim
    have hbetween := hclaim (room 0) ⟨0, 0⟩ 25 300 (empty 38) (by norm_num [room]) (by norm_num [room])
      (by norm_num [room]) (by norm_num) (by decide +kernel)
    exact absurd hbetween.2 (by decide +kernel)
  · intro hclaim
    have hsame := hclaim (room 5000) ⟨0, 0⟩ (empty 20) (by norm_num [room]) (by norm_num [room]) (by decide +kernel)
      [300, 300] [600] (by decide +kernel) (by decide +kernel) (by norm_num)
    exact absurd hsame.1 (by decide +kernel)

end DTwin.Sim.Physics
