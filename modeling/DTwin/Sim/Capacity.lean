import DTwin.Sim.Closure
import DTwin.Sim.Ideal
import Mathlib.Analysis.SpecialFunctions.Exp
import Mathlib.Analysis.SpecialFunctions.Log.Basic

/-!
# DTwin.Sim.Capacity — does the coil deliver more than is installed?

`size_plant` sizes the plant for the whole load of the coil; `integrate_substep` holds the sensible cooling to that
capacity, and then adds the latent load and the heat of the fan to what the coil delivers and is charged.
-/

namespace DTwin.Sim.Physics

variable {K : Type*} [Field K] [LinearOrder K]

/-- The heat of the fan above its least flow, at this sensible load. -/
def Zone.fanExtraW (z : Zone K) (p : Plant K) (x : Exposure K) (sensibleW : K) : K :=
  HEAT_TO_AIRSTREAM_FRACTION *
    (fanPowerW (flowFraction sensibleW z.capacityW true) p.designFanW - z.fanFloorW x p.designFanW)

/-- No cooling is called for, or beside what is needed of it the plant has room for the moisture and for the fan. -/
def Zone.HasRoom (z : Zone K) (p : Plant K) (dt temperature : K) (x : Exposure K) : Prop :=
  let need := z.coolingNeedW x p.designFanW temperature dt
  need = 0 ∨ z.capacityW = 0 ∨
    z.qLatentW x p.indoorHumidity + z.fanExtraW p x need ≤ max (z.capacityW - need) 0

/-- The same along a run. -/
def RoomAlong (z : Zone K) (p : Plant K) (dt : K) : K → List (Exposure K) → Prop
  | _, [] => True
  | temperature, x :: xs =>
    z.HasRoom p dt temperature x ∧ RoomAlong z p dt (integrateSubstep z p temperature x dt).temperature xs

/-- What is delivered and charged is within what is installed. -/
def StepResult.Within (z : Zone K) (r : StepResult K) : Prop :=
  r.coilW ≤ z.capacityW ∧ r.heatingW ≤ z.capacityW ∧ r.heatingNetW ≤ z.capacityW

/-- The electricity for cooling over an interval: that of the coil, and the fan's. -/
def coolingJ (z : Zone K) (dt : K) (interval : List (StepResult K)) : K :=
  (interval.map fun r => (r.coilW / z.cop + r.fanW) * dt).sum

def fanJ (dt : K) (interval : List (StepResult K)) : K := (interval.map fun r => r.fanW * dt).sum

variable {z : Zone K} {p : Plant K} {temperature dt : K} {x : Exposure K}

theorem clip_eq_min {v c : K} (hv : 0 ≤ v) : clip v 0 c = min v c := by
  rw [clip, max_eq_left hv]

/-- The coil of a substep that cools. -/
theorem coilW_of_cooling (hcooling : 0 < (integrateSubstep z p temperature x dt).coolingW) :
    (integrateSubstep z p temperature x dt).coilW = (integrateSubstep z p temperature x dt).coolingW +
      z.qLatentW x p.indoorHumidity + z.fanExtraW p x (integrateSubstep z p temperature x dt).coolingW := by
  have hcall : 0 < clip (z.coolingNeedW x p.designFanW temperature dt) 0 z.capacityW := hcooling
  show clip _ 0 _ + (if 0 < clip _ 0 _ then _ else 0) + (if 0 < clip _ 0 _ then _ else 0) = _
  rw [if_pos hcall, if_pos hcall]
  have hrunning : (z.ventilating x || decide (0 < clip (z.coolingNeedW x p.designFanW temperature dt) 0 z.capacityW) ||
      decide (0 < clip (z.heatingNeedW x p.designFanW temperature dt) 0 z.capacityW)) = true := by
    simp [hcall]
  rw [hrunning]
  rfl

theorem coilW_of_idle (hcooling : (integrateSubstep z p temperature x dt).coolingW = 0) :
    (integrateSubstep z p temperature x dt).coilW = 0 := by
  have hidle : clip (z.coolingNeedW x p.designFanW temperature dt) 0 z.capacityW = 0 := hcooling
  show clip _ 0 _ + (if 0 < clip _ 0 _ then _ else 0) + (if 0 < clip _ 0 _ then _ else 0) = _
  rw [hidle, if_neg (lt_irrefl 0), if_neg (lt_irrefl 0), add_zero, add_zero]

variable [IsStrictOrderedRing K]

/-- The fan moves the same air for a need beyond the capacity as for one that takes it all. -/
theorem flowFraction_min (hcap : 0 < z.capacityW) (need : K) :
    flowFraction (min need z.capacityW) z.capacityW true = flowFraction need z.capacityW true := by
  have hleast : (MIN_FLOW_FRACTION : K) ≤ 1 := by
    unfold MIN_FLOW_FRACTION
    norm_num
  unfold flowFraction
  rw [if_pos hcap, if_pos hcap, if_pos rfl, if_pos rfl]
  rcases le_total need z.capacityW with hle | hle
  · rw [min_eq_left hle]
  · have hfull : 1 ≤ need / z.capacityW := (one_le_div hcap).mpr hle
    have hone : z.capacityW / z.capacityW = 1 := div_self hcap.ne'
    rw [min_eq_right hle, hone, clip, clip, max_eq_left hleast, max_eq_left (hleast.trans hfull), min_self,
      min_eq_right hfull]

/-- The polynomial of the fan grows over the flows there are. -/
theorem partLoadPowerFraction_le {f g : K} (hf : 0 ≤ f) (hfg : f ≤ g) (hg : g ≤ 1) :
    (partLoadPowerFraction f : K) ≤ partLoadPowerFraction g := by
  have hg0 : 0 ≤ g := hf.trans hfg
  have hf1 : f ≤ 1 := hfg.trans hg
  have hdiff : 0 ≤ g - f := sub_nonneg.mpr hfg
  have hsquares : f ^ 2 + f * g + g ^ 2 ≤ 3 * (f + g) := by
    have hff : f * f ≤ f * 1 := mul_le_mul_of_nonneg_left hf1 hf
    have hgf : f * g ≤ f * 1 := mul_le_mul_of_nonneg_left hg hf
    have hgg : g * g ≤ g * 1 := mul_le_mul_of_nonneg_left hg hg0
    linarith only [hff, hgf, hgg, hf, hg0]
  have hslope : 0 ≤ 147 / 1000 + 9506 / 10000 * (f + g) + -998 / 10000 * (f ^ 2 + f * g + g ^ 2) := by
    linarith only [hsquares, hf, hg0]
  have hfactor : 0 ≤ (g - f) * (147 / 1000 + 9506 / 10000 * (f + g) + -998 / 10000 * (f ^ 2 + f * g + g ^ 2)) :=
    mul_nonneg hdiff hslope
  unfold partLoadPowerFraction
  dsimp only
  rw [clip_within hf hf1, clip_within hg0 hg]
  linarith only [hfactor]

/-- While it runs, the fan draws no less than at its least flow. -/
theorem fanFloorW_le (hfan : 0 ≤ p.designFanW) (sensibleW : K) :
    z.fanFloorW x p.designFanW ≤ fanPowerW (flowFraction sensibleW z.capacityW true) p.designFanW := by
  have hleast : (0 : K) < MIN_FLOW_FRACTION := by
    unfold MIN_FLOW_FRACTION
    norm_num
  have hlow : (MIN_FLOW_FRACTION : K) ≤ 1 := by
    unfold MIN_FLOW_FRACTION
    norm_num
  have hflow : MIN_FLOW_FRACTION ≤ flowFraction sensibleW z.capacityW true := le_min (le_max_right _ _) hlow
  have hfull : flowFraction sensibleW z.capacityW true ≤ 1 := min_le_right _ _
  have hmore := partLoadPowerFraction_le hleast.le hflow hfull
  have hpower : p.designFanW * partLoadPowerFraction MIN_FLOW_FRACTION ≤
      p.designFanW * partLoadPowerFraction (flowFraction sensibleW z.capacityW true) :=
    mul_le_mul_of_nonneg_left hmore hfan
  rw [fanFloorW_eq, fanPowerW, if_pos (hleast.trans_le hflow)]
  split_ifs with hin
  · exact hpower
  · exact (mul_nonneg hfan partLoad_min_pos.le).trans hpower

/-- What is charged for heating is what was delivered at most: the fan takes its heat off it. -/
theorem heatingNetW_le (hfan : 0 ≤ p.designFanW) (hcap : 0 ≤ z.capacityW) :
    (integrateSubstep z p temperature x dt).heatingNetW ≤ z.capacityW := by
  have hheating : (integrateSubstep z p temperature x dt).heatingW ≤ z.capacityW := min_le_right _ _
  refine max_le ?_ hcap
  show (integrateSubstep z p temperature x dt).heatingW -
    (if 0 < clip (z.heatingNeedW x p.designFanW temperature dt) 0 z.capacityW then _ else 0) ≤ z.capacityW
  split_ifs with hcall
  · have hrunning : (z.ventilating x ||
        decide (0 < clip (z.coolingNeedW x p.designFanW temperature dt) 0 z.capacityW) ||
        decide (0 < clip (z.heatingNeedW x p.designFanW temperature dt) 0 z.capacityW)) = true := by
      simp [hcall]
    have hfloor := fanFloorW_le (z := z) (x := x) hfan
      (clip (z.coolingNeedW x p.designFanW temperature dt) 0 z.capacityW)
    rw [hrunning, HEAT_TO_AIRSTREAM_FRACTION]
    linarith only [hheating, hfloor]
  · rw [sub_zero]
    exact hheating

/-- **One substep** delivers what is installed at most exactly if the plant has room. -/
theorem within_iff (hmass : 0 < z.thermalCapacityJK) (hcap : 0 ≤ z.capacityW) (hfan : 0 ≤ p.designFanW)
    (hdt : 0 < dt) : (integrateSubstep z p temperature x dt).Within z ↔ z.HasRoom p dt temperature x := by
  have hneed : 0 ≤ z.coolingNeedW x p.designFanW temperature dt := coolingNeedW_nonneg hmass hdt
  have hheating : (integrateSubstep z p temperature x dt).heatingW ≤ z.capacityW := min_le_right _ _
  have hcooling : (integrateSubstep z p temperature x dt).coolingW =
      min (z.coolingNeedW x p.designFanW temperature dt) z.capacityW := clip_eq_min hneed
  rw [StepResult.Within, and_iff_left (And.intro hheating (heatingNetW_le hfan hcap))]
  unfold Zone.HasRoom
  dsimp only
  rcases hneed.eq_or_lt with hzero | hpos
  · have hidle : (integrateSubstep z p temperature x dt).coolingW = 0 := by
      rw [hcooling, ← hzero, min_eq_left hcap]
    rw [coilW_of_idle hidle]
    exact ⟨fun _ => Or.inl hzero.symm, fun _ => hcap⟩
  · rcases hcap.eq_or_lt with hnone | hplant
    · have hidle : (integrateSubstep z p temperature x dt).coolingW = 0 := by
        rw [hcooling, ← hnone, min_eq_right hneed]
      rw [coilW_of_idle hidle]
      exact ⟨fun _ => Or.inr (Or.inl hnone.symm), fun _ => hcap⟩
    · have hcall : 0 < (integrateSubstep z p temperature x dt).coolingW := by
        rw [hcooling]
        exact lt_min hpos hplant
      have hextra : z.fanExtraW p x (integrateSubstep z p temperature x dt).coolingW =
          z.fanExtraW p x (z.coolingNeedW x p.designFanW temperature dt) := by
        rw [hcooling]
        unfold Zone.fanExtraW
        rw [flowFraction_min hplant]
      have hspare : max (z.capacityW - z.coolingNeedW x p.designFanW temperature dt) 0 =
          z.capacityW - (integrateSubstep z p temperature x dt).coolingW := by
        rw [hcooling]
        rcases le_total (z.coolingNeedW x p.designFanW temperature dt) z.capacityW with hle | hle
        · rw [min_eq_left hle, max_eq_left (sub_nonneg.mpr hle)]
        · rw [min_eq_right hle, sub_self, max_eq_right (sub_nonpos.mpr hle)]
      rw [coilW_of_cooling hcall, hextra, or_iff_right hpos.ne', or_iff_right hplant.ne', hspare]
      constructor
      · intro h
        linarith
      · intro h
        linarith

/-- **A run** delivers what is installed at most in all its substeps exactly if the plant has room in all. -/
theorem within_run (hmass : 0 < z.thermalCapacityJK) (hcap : 0 ≤ z.capacityW) (hfan : 0 ≤ p.designFanW)
    (hdt : 0 < dt) :
    ∀ (xs : List (Exposure K)) (temperature : K),
      (∀ r ∈ (substeps z p dt temperature xs).2, r.Within z) ↔ RoomAlong z p dt temperature xs
  | [], temperature => by simp [substeps, RoomAlong]
  | x :: xs, temperature => by
    have hrest := within_run hmass hcap hfan hdt xs (integrateSubstep z p temperature x dt).temperature
    have hstep : (integrateSubstep z p temperature x dt).Within z ↔ z.HasRoom p dt temperature x :=
      within_iff hmass hcap hfan hdt
    simp only [substeps, List.forall_mem_cons, RoomAlong]
    rw [hstep, hrest]

/-- What is within capacity costs no more than the capacity. -/
theorem coolingJ_le (hcop : 0 < z.cop) (hdt : 0 < dt) : ∀ interval : List (StepResult K), (∀ r ∈ interval, r.Within z) →
    coolingJ z dt interval ≤ z.capacityW / z.cop * (interval.length * dt) + fanJ dt interval
  | [], _ => by simp [coolingJ, fanJ]
  | r :: interval, hwithin => by
    have hrest := coolingJ_le hcop hdt interval fun r' hr' => hwithin r' (List.mem_cons_of_mem r hr')
    have hcoil : r.coilW / z.cop ≤ z.capacityW / z.cop :=
      div_le_div_of_nonneg_right (hwithin r List.mem_cons_self).1 hcop.le
    have hstep : r.coilW / z.cop * dt ≤ z.capacityW / z.cop * dt := mul_le_mul_of_nonneg_right hcoil hdt.le
    unfold coolingJ fanJ at hrest ⊢
    simp only [List.map_cons, List.sum_cons, List.length_cons, Nat.cast_add, Nat.cast_one]
    linarith

/-- **The plant delivers what is installed at most**, in every substep of a run, and no interval costs more, exactly
if in every substep that cools there is room for the moisture and the fan beside the sensible need. -/
theorem delivered_iff (z : Zone K) (p : Plant K) (dt temperature : K) (xs : List (Exposure K))
    (hmass : 0 < z.thermalCapacityJK) (hcap : 0 ≤ z.capacityW) (hcop : 0 < z.cop) (hfan : 0 ≤ p.designFanW)
    (hdt : 0 < dt) :
    ((∀ r ∈ (substeps z p dt temperature xs).2, r.Within z) ∧
      ∀ interval, interval.Sublist (substeps z p dt temperature xs).2 →
        coolingJ z dt interval ≤ z.capacityW / z.cop * (interval.length * dt) + fanJ dt interval) ↔
    RoomAlong z p dt temperature xs := by
  rw [← within_run hmass hcap hfan hdt]
  refine ⟨And.left, fun hwithin => ⟨hwithin, fun interval hinterval => ?_⟩⟩
  exact coolingJ_le hcop hdt interval fun r hr => hwithin r (hinterval.subset hr)

/-! ## A plant as it is sized -/

section Sized

/-- The exponential and the logarithm. -/
noncomputable def numerics : Numerics ℝ := ⟨Real.exp, Real.log⟩

/-- A west room: ten square metres of glass that lose a watt a kelvin each, one person, and nothing else. -/
noncomputable def westRoom : Zone ℝ where
  windowArea := 10
  shgc := 1 / 2
  thermalCapacityJK := 2000000
  uaEnvelope := 10
  uaInfiltration := 0
  lightingW := 0
  equipmentW := 0
  designOccupancy := 1
  occupancyGainW := 744 / 10
  occupancyLatentW := 456 / 10
  ventilationM3SPerson := 0
  setpoint := 24
  deadband := 0
  cop := 3
  capacityW := 0

/-- Sized for a dry day of 40 °C, with the safety factor of the settings. -/
noncomputable def sizedRoom : Zone ℝ := westRoom.sizePlant numerics (125 / 100) 40 0

theorem capacityW_sizedRoom : sizedRoom.capacityW = 5350 := by
  simp only [sizedRoom, Zone.sizePlant, westRoom, latentPowerW]
  norm_num [DESIGN_SOLAR_W_M2]

/-- The sun on the west wall, and the person in. -/
noncomputable def lowSun (irradiance : ℝ) : Exposure ℝ := ⟨40, irradiance, 1, 0⟩

theorem qNetW_sizedRoom (irradiance temperature : ℝ) :
    sizedRoom.qNetW (lowSun irradiance) 0 temperature = 5 * irradiance + 744 / 10 + 10 * (40 - temperature) := by
  simp only [Zone.qNetW, Zone.qSolarW, Zone.qLightW, Zone.qEquipW, Zone.qPeopleW, Zone.occupants, Zone.uaVentilation,
    Zone.fanFloorW, fanPowerW, sizedRoom, Zone.sizePlant, westRoom, lowSun]
  norm_num

theorem coolingNeedW_sizedRoom {irradiance : ℝ} (hsun : 0 ≤ irradiance) :
    sizedRoom.coolingNeedW (lowSun irradiance) 0 24 300 = 5 * irradiance + 2344 / 10 := by
  have hmass : sizedRoom.thermalCapacityJK = 2000000 := rfl
  have hupper : sizedRoom.upper = 24 := by
    show (24 : ℝ) + 0 / 2 = 24
    norm_num
  have hfloat : sizedRoom.freeFloat (lowSun irradiance) 0 24 300 =
    24 + (5 * irradiance + 2344 / 10) * 300 / 2000000 := by
    rw [Zone.freeFloat, qNetW_sizedRoom, hmass]
    ring
  have hover : sizedRoom.upper < sizedRoom.freeFloat (lowSun irradiance) 0 24 300 := by
    rw [hupper, hfloat]
    linarith
  have hneed : sizedRoom.coolingNeedW (lowSun irradiance) 0 24 300 =
      (sizedRoom.freeFloat (lowSun irradiance) 0 24 300 - sizedRoom.upper) * (sizedRoom.thermalCapacityJK / 300) :=
    if_pos hover
  rw [hneed, hupper, hfloat, hmass]
  ring

theorem qLatentW_sizedRoom (irradiance : ℝ) : sizedRoom.qLatentW (lowSun irradiance) 0 = 456 / 10 := by
  simp only [Zone.qLatentW, latentPowerW, Zone.occupants, sizedRoom, Zone.sizePlant, westRoom, lowSun]
  norm_num

theorem fanExtraW_sizedRoom (irradiance need : ℝ) : sizedRoom.fanExtraW ⟨0, 0⟩ (lowSun irradiance) need = 0 := by
  simp only [Zone.fanExtraW, Zone.fanFloorW, fanPowerW, zero_mul, ite_self, sub_self, mul_zero]

/-- With 900 W/m² on the wall there is room. -/
theorem delivered_iff_sizedRoom : (integrateSubstep sizedRoom ⟨0, 0⟩ 24 (lowSun 900) 300).Within sizedRoom := by
  have hmass : (0 : ℝ) < sizedRoom.thermalCapacityJK := by
    show (0 : ℝ) < 2000000
    norm_num
  have hcap : 0 ≤ sizedRoom.capacityW := by
    rw [capacityW_sizedRoom]
    norm_num
  have hcop : (0 : ℝ) < sizedRoom.cop := by
    show (0 : ℝ) < 3
    norm_num
  refine ((delivered_iff sizedRoom ⟨0, 0⟩ 300 24 [lowSun 900] hmass hcap hcop le_rfl (by norm_num)).mpr
    ⟨?_, trivial⟩).1 _
    List.mem_cons_self
  refine Or.inr (Or.inr ?_)
  show sizedRoom.qLatentW (lowSun 900) 0 + sizedRoom.fanExtraW ⟨0, 0⟩ (lowSun 900) _ ≤
    max (sizedRoom.capacityW - sizedRoom.coolingNeedW (lowSun 900) 0 24 300) 0
  rw [qLatentW_sizedRoom, fanExtraW_sizedRoom, capacityW_sizedRoom, coolingNeedW_sizedRoom (by norm_num)]
  norm_num

/-- **The clip is on one term of three**: with 1100 W/m² the sensible cooling takes all that is installed, and the
moisture of the person comes on top. -/
theorem more_than_installed :
    ¬ (integrateSubstep sizedRoom ⟨0, 0⟩ 24 (lowSun 1100) 300).coilW ≤ sizedRoom.capacityW := by
  have hneed := coolingNeedW_sizedRoom (show (0 : ℝ) ≤ 1100 by norm_num)
  have hcooling : (integrateSubstep sizedRoom ⟨0, 0⟩ 24 (lowSun 1100) 300).coolingW = 5350 := by
    show clip (sizedRoom.coolingNeedW (lowSun 1100) 0 24 300) 0 sizedRoom.capacityW = 5350
    rw [hneed, capacityW_sizedRoom]
    exact clip_beyond (by norm_num) (by norm_num)
  have hlatent : sizedRoom.qLatentW (lowSun 1100) (⟨0, 0⟩ : Plant ℝ).indoorHumidity = 456 / 10 :=
    qLatentW_sizedRoom 1100
  rw [coilW_of_cooling (by rw [hcooling]; norm_num), hcooling, hlatent, fanExtraW_sizedRoom, capacityW_sizedRoom]
  norm_num

end Sized

end DTwin.Sim.Physics
