import DTwin.Sim.Ideal
import DTwin.Sim.Zones

/-!
# DTwin.Sim.Stability — when Euler's rule is stable

Without gains and without plant a substep multiplies the distance to the outdoor temperature by `1 - dt * ua / C`
(`gap_step`): the zone nears it and stays on its side exactly if `dt * ua` is no more than its capacity, or there is no
distance left (`toward_iff`).  Nothing holds a profile, its zone and the scales of a request to that.
-/

namespace DTwin.Sim.Physics

variable {K : Type*} [Field K] [LinearOrder K]

/-- `temperature'` is no farther from `tOut` than `temperature`, and on the same side. -/
structure Toward (tOut temperature temperature' : K) : Prop where
  nearer : |temperature' - tOut| ≤ |temperature - tOut|
  above : tOut ≤ temperature → tOut ≤ temperature'
  below : temperature ≤ tOut → temperature' ≤ tOut

/-- The conductance to outdoors, with as many in as there are. -/
def Zone.ua (z : Zone K) (x : Exposure K) : K := z.uaEnvelope + z.uaInfiltration + z.uaVentilation x

/-- A substep without internal gain, sun or plant. -/
structure Unforced (z : Zone K) (p : Plant K) (dt temperature : K) (x : Exposure K) : Prop where
  solar : z.qSolarW x = 0
  lights : z.qLightW x = 0
  equipment : z.qEquipW x = 0
  people : z.qPeopleW x = 0
  fan : z.fanFloorW x p.designFanW = 0
  cooling : (integrateSubstep z p temperature x dt).coolingW = 0
  heating : (integrateSubstep z p temperature x dt).heatingW = 0

/-- What holds of each substep of a run. -/
def Along (Q : K → Exposure K → Prop) (z : Zone K) (p : Plant K) (dt : K) : K → List (Exposure K) → Prop
  | _, [] => True
  | temperature, x :: xs => Q temperature x ∧ Along Q z p dt (integrateSubstep z p temperature x dt).temperature xs

/-- Each substep of a run nears the outdoor temperature from its side. -/
def Settling (z : Zone K) (p : Plant K) (dt tOut : K) : K → List (Exposure K) → Prop :=
  Along (fun temperature x => Toward tOut temperature (integrateSubstep z p temperature x dt).temperature) z p dt

/-- Up to the first substep that takes the whole distance, each conducts less than the zone holds. -/
def Damped (z : Zone K) (dt : K) : List (Exposure K) → Prop
  | [] => True
  | x :: xs => dt * z.ua x = z.thermalCapacityJK ∨ dt * z.ua x < z.thermalCapacityJK ∧ Damped z dt xs

variable {z : Zone K} {p : Plant K} {temperature dt tOut : K} {x : Exposure K}

section Step

variable (hout : x.tOut = tOut) (hfree : Unforced z p dt temperature x)

include hout hfree

/-- **One substep** keeps a fixed share of the distance. -/
theorem gap_step (hmass : z.thermalCapacityJK ≠ 0) :
    z.thermalCapacityJK * ((integrateSubstep z p temperature x dt).temperature - tOut) =
      (z.thermalCapacityJK - dt * z.ua x) * (temperature - tOut) := by
  have hnet : z.qNetW x p.designFanW temperature = z.ua x * (tOut - temperature) := by
    unfold Zone.qNetW Zone.ua
    rw [hfree.solar, hfree.lights, hfree.equipment, hfree.people, hfree.fan, hout]
    ring
  rw [temperature_eq, hfree.cooling, hfree.heating, Zone.freeFloat, hnet]
  field_simp
  ring

/-- A zone at the outdoor temperature stays there. -/
theorem rest_step (hmass : z.thermalCapacityJK ≠ 0) (hrest : temperature = tOut) :
    (integrateSubstep z p temperature x dt).temperature = tOut := by
  have hgap := gap_step hout hfree hmass
  rw [hrest, sub_self, mul_zero] at hgap
  have hzero := (mul_eq_zero.mp hgap).resolve_left hmass
  rw [hrest]
  exact sub_eq_zero.mp hzero

variable [IsStrictOrderedRing K]

/-- **A substep is stable** exactly if it conducts no more than the zone holds, or has nothing to conduct. -/
theorem toward_iff (hmass : 0 < z.thermalCapacityJK) (hua : 0 ≤ dt * z.ua x) :
    Toward tOut temperature (integrateSubstep z p temperature x dt).temperature ↔
      temperature = tOut ∨ dt * z.ua x ≤ z.thermalCapacityJK := by
  have hgap := gap_step hout hfree hmass.ne'
  constructor
  · intro htoward
    rcases lt_trichotomy temperature tOut with hlt | heq | hgt
    · right
      have hbelow : (integrateSubstep z p temperature x dt).temperature - tOut ≤ 0 :=
        sub_nonpos.mpr (htoward.below hlt.le)
      have hside : (z.thermalCapacityJK - dt * z.ua x) * (temperature - tOut) ≤ 0 := by
        rw [← hgap]
        exact mul_nonpos_of_nonneg_of_nonpos hmass.le hbelow
      by_contra hmore
      have hneg : z.thermalCapacityJK - dt * z.ua x < 0 := sub_neg.mpr (not_le.mp hmore)
      exact absurd hside (not_le.mpr (mul_pos_of_neg_of_neg hneg (sub_neg.mpr hlt)))
    · exact Or.inl heq
    · right
      have habove : 0 ≤ (integrateSubstep z p temperature x dt).temperature - tOut :=
        sub_nonneg.mpr (htoward.above hgt.le)
      have hside : 0 ≤ (z.thermalCapacityJK - dt * z.ua x) * (temperature - tOut) := by
        rw [← hgap]
        exact mul_nonneg hmass.le habove
      by_contra hmore
      have hneg : z.thermalCapacityJK - dt * z.ua x < 0 := sub_neg.mpr (not_le.mp hmore)
      exact absurd hside (not_le.mpr (mul_neg_of_neg_of_pos hneg (sub_pos.mpr hgt)))
  · intro hstable
    have hshare : temperature = tOut ∨ 0 ≤ z.thermalCapacityJK - dt * z.ua x :=
      hstable.imp_right sub_nonneg.mpr
    rcases hshare with hrest | hshare
    · rw [rest_step hout hfree hmass.ne' hrest, hrest]
      exact ⟨le_rfl, fun _ => le_rfl, fun _ => le_rfl⟩
    · refine ⟨?_, fun habove => ?_, fun hbelow => ?_⟩
      · have habs := congrArg abs hgap
        rw [abs_mul, abs_mul, abs_of_pos hmass, abs_of_nonneg hshare] at habs
        have hless : (z.thermalCapacityJK - dt * z.ua x) * |temperature - tOut| ≤
            z.thermalCapacityJK * |temperature - tOut| :=
          mul_le_mul_of_nonneg_right (sub_le_self _ hua) (abs_nonneg _)
        rw [← habs] at hless
        exact le_of_mul_le_mul_left hless hmass
      · have hside : 0 ≤ z.thermalCapacityJK * ((integrateSubstep z p temperature x dt).temperature - tOut) := by
          rw [hgap]
          exact mul_nonneg hshare (sub_nonneg.mpr habove)
        exact sub_nonneg.mp (nonneg_of_mul_nonneg_right hside hmass)
      · have hside : z.thermalCapacityJK * ((integrateSubstep z p temperature x dt).temperature - tOut) ≤ 0 := by
          rw [hgap]
          exact mul_nonpos_of_nonneg_of_nonpos hshare (sub_nonpos.mpr hbelow)
        exact sub_nonpos.mp (nonpos_of_mul_nonpos_right hside hmass)

end Step

section Run

variable [IsStrictOrderedRing K]

/-- A run from the outdoor temperature stays there. -/
theorem settling_of_rest (hmass : 0 < z.thermalCapacityJK) : ∀ (xs : List (Exposure K)),
    (∀ x ∈ xs, x.tOut = tOut) → (∀ x ∈ xs, 0 ≤ dt * z.ua x) → Along (Unforced z p dt) z p dt tOut xs →
    Settling z p dt tOut tOut xs
  | [], _, _, _ => trivial
  | x :: xs, hout, hua, hfree => by
    have hx : x.tOut = tOut := hout x List.mem_cons_self
    have hrest := rest_step hx hfree.1 hmass.ne' rfl
    have htail := settling_of_rest hmass xs (fun y hy => hout y (List.mem_cons_of_mem x hy))
      (fun y hy => hua y (List.mem_cons_of_mem x hy))
    refine ⟨(toward_iff hx hfree.1 hmass (hua x List.mem_cons_self)).mpr (Or.inl rfl), ?_⟩
    have hnext := hfree.2
    rw [hrest] at hnext ⊢
    exact htail hnext

/-- **A run is stable** exactly if it starts at the outdoor temperature, or is damped until it is there. -/
theorem settling_iff (hmass : 0 < z.thermalCapacityJK) : ∀ (xs : List (Exposure K)) (temperature : K),
    (∀ x ∈ xs, x.tOut = tOut) → (∀ x ∈ xs, 0 ≤ dt * z.ua x) → Along (Unforced z p dt) z p dt temperature xs →
    (Settling z p dt tOut temperature xs ↔ temperature = tOut ∨ Damped z dt xs)
  | [], temperature, _, _, _ => iff_of_true trivial (Or.inr trivial)
  | x :: xs, temperature, hout, hua, hfree => by
    have hx : x.tOut = tOut := hout x List.mem_cons_self
    have hux : 0 ≤ dt * z.ua x := hua x List.mem_cons_self
    have houts : ∀ y ∈ xs, y.tOut = tOut := fun y hy => hout y (List.mem_cons_of_mem x hy)
    have huas : ∀ y ∈ xs, 0 ≤ dt * z.ua y := fun y hy => hua y (List.mem_cons_of_mem x hy)
    have hgap := gap_step hx hfree.1 hmass.ne'
    by_cases hrest : temperature = tOut
    · refine iff_of_true ?_ (Or.inl hrest)
      rw [hrest] at hfree ⊢
      exact settling_of_rest hmass (x :: xs) hout hua hfree
    · have hstep := toward_iff hx hfree.1 hmass hux
      have htail := settling_iff hmass xs _ houts huas hfree.2
      -- the distance is gone after this substep exactly if it conducts all that the zone holds
      have hgone : (integrateSubstep z p temperature x dt).temperature = tOut ↔ dt * z.ua x = z.thermalCapacityJK := by
        rw [← sub_eq_zero, ← mul_eq_zero_iff_left hmass.ne', hgap, mul_eq_zero, sub_eq_zero,
          or_iff_left (sub_ne_zero.mpr hrest)]
        exact eq_comm
      rw [or_iff_right hrest] at hstep
      show Toward tOut temperature _ ∧ Settling z p dt tOut _ xs ↔
        temperature = tOut ∨ (dt * z.ua x = z.thermalCapacityJK ∨ dt * z.ua x < z.thermalCapacityJK ∧ Damped z dt xs)
      rw [hstep, htail, hgone, or_iff_right hrest]
      constructor
      · rintro ⟨hle, heq | hdamped⟩
        · exact Or.inl heq
        · exact hle.eq_or_lt.imp id fun hlt => ⟨hlt, hdamped⟩
      · rintro (heq | ⟨hlt, hdamped⟩)
        · exact ⟨heq.le, Or.inl heq⟩
        · exact ⟨hlt.le, Or.inr hdamped⟩

end Run

/-! ## A zone that is admitted -/

section Example

/-- A night of 25 °C. -/
def night : Exposure ℚ := ⟨25, 0, 0, 0⟩

/-- The hall, with a plant of a kilowatt and no fan. -/
def darkHall (thermalMassKjPerK : ℚ) (hmass : 0 < thermalMassKjPerK) : Zone ℚ :=
  { zoneArrays hall (shed thermalMassKjPerK hmass) asStored with capacityW := 1000 }

theorem ua_darkHall (thermalMassKjPerK : ℚ) (hmass : 0 < thermalMassKjPerK) :
    (darkHall thermalMassKjPerK hmass).ua night = 100 := by
  simp [Zone.ua, Zone.uaVentilation, Zone.occupants, darkHall, zoneArrays, ZoneRow.wallArea, ZoneRow.occupancy, hall,
    shed,
    night]

/-- Where the hall floats to from its setpoint. -/
theorem freeFloat_darkHall (thermalMassKjPerK : ℚ) (hmass : 0 < thermalMassKjPerK) :
    (darkHall thermalMassKjPerK hmass).freeFloat night 0 24 300 = 24 + 30 / thermalMassKjPerK := by
  have hmass' := hmass.ne'
  have hnet : (darkHall thermalMassKjPerK hmass).qNetW night 0 24 = 100 := by
    simp [Zone.qNetW, Zone.qSolarW, Zone.qLightW, Zone.qEquipW, Zone.qPeopleW, Zone.uaVentilation, Zone.occupants,
      Zone.fanFloorW, Zone.ventilating, fanPowerW, darkHall, zoneArrays, ZoneRow.wallArea, ZoneRow.occupancy, hall,
      shed, night]
    norm_num
  have hcapacity : (darkHall thermalMassKjPerK hmass).thermalCapacityJK = thermalMassKjPerK * 1000 := rfl
  rw [Zone.freeFloat, hnet, hcapacity]
  field_simp
  ring

/-- Within the band nothing but the wall works. -/
theorem unforced_darkHall (thermalMassKjPerK : ℚ) (hmass : 1 ≤ thermalMassKjPerK) :
    Unforced (darkHall thermalMassKjPerK (one_pos.trans_le hmass)) ⟨0, 0⟩ 300 24 night := by
  have hpos : 0 < thermalMassKjPerK := one_pos.trans_le hmass
  have hfloat := freeFloat_darkHall thermalMassKjPerK hpos
  have hsmall : 30 / thermalMassKjPerK ≤ 30 := by
    rw [div_le_iff₀ hpos]
    linarith
  have hnonneg : 0 ≤ 30 / thermalMassKjPerK := div_nonneg (by norm_num) hpos.le
  have hupper : (darkHall thermalMassKjPerK hpos).upper = 74 := by
    simp [Zone.upper, darkHall, zoneArrays, shed, asStored]
    norm_num
  have hlower : (darkHall thermalMassKjPerK hpos).lower = -26 := by
    simp [Zone.lower, darkHall, zoneArrays, shed, asStored]
    norm_num
  have hcap : (0 : ℚ) ≤ (darkHall thermalMassKjPerK hpos).capacityW := by
    show (0 : ℚ) ≤ 1000
    norm_num
  refine ⟨?_, ?_, ?_, ?_, ?_, ?_, ?_⟩
  · simp [Zone.qSolarW, night]
  · simp [Zone.qLightW, darkHall, zoneArrays, shed]
  · simp [Zone.qEquipW, darkHall, zoneArrays, shed]
  · simp [Zone.qPeopleW, darkHall, zoneArrays, shed]
  · simp [Zone.fanFloorW, fanPowerW]
  · refine coolingW_of_need hcap (coolingNeedW_of_le ?_)
    rw [hfloat, hupper]
    linarith
  · refine heatingW_of_need hcap (heatingNeedW_of_le ?_)
    rw [hfloat, hlower]
    linarith

theorem mass_pos : (0 : ℚ) < 100000 := by norm_num

end Example

end DTwin.Sim.Physics
