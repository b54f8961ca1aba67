import DTwin.Lib.Double
import DTwin.Sim.Accounting
import DTwin.Sim.Capacity
import DTwin.Sim.Zones
import Mathlib.Data.List.MinMax

/-!
# DTwin.Sim.Rows — the rows of a run against the constraints of their table

What `run` prepares before its loop, put together with the physics of a substep: the building that the loop walks
(`Premises.building`).  Each power that a row adds up has a sign (`step_fits`), whatever the temperatures are, so
every row of every run passes the CHECK constraints of `simulation_results` (`rows_fit`).  The sums of a row are doubles
here: its unmet hours may pass the hours of its interval by what their additions have rounded up. -/

namespace DTwin.Sim

open Finset
open Physics (ZoneRow ThermalProfile SimulationParams Numerics Zone Plant Exposure zoneArrays scaleOf humidityRatio clip
  AIR_DENSITY_KG_M3 AIR_CP_J_KGK INDOOR_TARGET_RH_PCT)

def SUPPLY_AIR_DELTA_T_K : ℚ := 11

def DESIGN_OUTDOOR_FALLBACK_C : ℚ := 42

/-- An air handler in the asset register. -/
structure Ahu where
  ratedPowerKw : Option ℚ
  ratedAirflowCmh : Option ℚ
  power_nonneg : ∀ kw ∈ ratedPowerKw, 0 ≤ kw
  airflow_nonneg : ∀ cmh ∈ ratedAirflowCmh, 0 ≤ cmh

/-- The rows of `specific_fan_power_w_per_l_s`: both figures, and the airflow above zero. -/
def Ahu.rating (ahu : Ahu) : Option (ℚ × ℚ) :=
  match ahu.ratedPowerKw, ahu.ratedAirflowCmh with
  | some kw, some cmh => if 0 < cmh then some (kw, cmh) else none
  | _, _ => none

def specificFanPowerWPerLS (ahus : List Ahu) : Option ℚ :=
  let rows := ahus.filterMap Ahu.rating
  let kw := (rows.map Prod.fst).sum
  let cmh := (rows.map Prod.snd).sum
  if kw = 0 ∨ cmh = 0 then none else some (kw * 3600 / cmh)

/-- What the weather, the geometry and the schedules have for a stamp. -/
structure Sample (ι : Type) where
  dryBulbC : ℚ
  rhPct : ℚ
  irradiance : ι → ℚ
  /-- `occupancy_table` at the day type and the hour. -/
  occupancy : ι → ℚ

/-- What `run` has read, and its settings. -/
structure Premises (ι : Type) where
  zones : List ι
  row : ι → ZoneRow ℚ
  profile : ι → ThermalProfile ℚ
  params : SimulationParams ℚ
  ahus : List Ahu
  gridCarbonKgPerKwh : ℚ
  carbon_nonneg : 0 ≤ gridCarbonKgPerKwh
  series : ℕ → Sample ι
  np : Numerics ℚ
  capacitySafetyFactor : ℚ

namespace Premises

variable {ι : Type} (site : Premises ι)

/-- The stamp of the highest dry bulb, `np.argmax`. -/
def peak (steps : ℕ) : Option (Sample ι) :=
  ((List.range steps).argmax fun i => (site.series i).dryBulbC).map site.series

/-- A zone with its plant, `size_plant`. -/
def zone (steps : ℕ) (z : ι) : Zone ℚ :=
  let arrays := zoneArrays (site.row z) (site.profile z) site.params
  match site.peak steps with
  | some sample => arrays.sizePlant site.np site.capacitySafetyFactor sample.dryBulbC sample.rhPct
  | none => arrays.sizePlant site.np site.capacitySafetyFactor DESIGN_OUTDOOR_FALLBACK_C 55

def designFanW (steps : ℕ) (z : ι) : ℚ :=
  match specificFanPowerWPerLS site.ahus with
  | none => 0
  | some sfp => (site.zone steps z).capacityW / (AIR_CP_J_KGK * SUPPLY_AIR_DELTA_T_K * AIR_DENSITY_KG_M3) * 1000 * sfp

def plant (steps : ℕ) (z : ι) : Plant ℚ where
  indoorHumidity := humidityRatio site.np (site.zone steps z).setpoint INDOOR_TARGET_RH_PCT
  designFanW := site.designFanW steps z

def exposure (i : ℕ) (z : ι) : Exposure ℚ where
  tOut := (site.series i).dryBulbC
  irradiance := (site.series i).irradiance z
  occupancyFraction := Physics.clip ((site.series i).occupancy z * scaleOf site.params.occupancyScale) 0 1
  outdoorHumidity := humidityRatio site.np (site.series i).dryBulbC (site.series i).rhPct

/-- `integrate_substep` of one zone. -/
def step (steps : ℕ) (dt temperature : ℚ) (i : ℕ) (z : ι) : Physics.StepResult ℚ :=
  Physics.integrateSubstep (site.zone steps z) (site.plant steps z) temperature (site.exposure i z) dt

/-- `params.gridCarbonKgPerKwh`, or what the building has. -/
def carbonFactor : ℚ := site.params.gridCarbonKgPerKwh.getD site.gridCarbonKgPerKwh

/-- What `run` walks with `steps` stamps of `dt` seconds. -/
def building (steps : ℕ) (dt : ℚ) : Building ι where
  zones := site.zones
  integrateSubstep temperature i :=
    let r := fun z => site.step steps dt (temperature z) i z
    { temperature := fun z => (r z).temperature
      latentMetW := fun z => (r z).latentMetW
      fanW := fun z => (r z).fanW
      coilW := fun z => (r z).coilW
      heatingNetW := fun z => (r z).heatingNetW
      qSolarW := fun z => (r z).qSolarW
      qLightW := fun z => (r z).qLightW
      qEquipW := fun z => (r z).qEquipW
      qPeopleW := fun z => (r z).qPeopleW
      qEnvelopeW := fun z => (r z).qEnvelopeW
      qVentilationW := fun z => (r z).qVentilationW
      occupants := fun z => (r z).occupants }
  occupancyFraction i z := (site.exposure i z).occupancyFraction
  cop z := (site.zone steps z).cop
  heatingCop z := (site.profile z).heating
  setpoint z := (site.zone steps z).setpoint
  lower z := (site.zone steps z).lower
  upper z := (site.zone steps z).upper
  carbonFactor := site.carbonFactor

end Premises

/-- The CHECK constraints of `simulation_results`. -/
structure ResultRow.Checks {ι : Type} (row : ResultRow ι) : Prop where
  hvacLoadKwh : 0 ≤ row.hvacLoadKwh
  lightingKwh : 0 ≤ row.lightingKwh
  plugKwh : 0 ≤ row.plugKwh
  totalKwh : 0 ≤ row.totalKwh
  co2Kg : 0 ≤ row.co2Kg
  peakDemandKw : 0 ≤ row.peakDemandKw
  occupancyCount : 0 ≤ row.occupancyCount
  unmetHours : 0 ≤ row.unmetHours
  latentLoadKwh : 0 ≤ row.latentLoadKwh
  fanLoadKwh : 0 ≤ row.fanLoadKwh

/-! ### The powers of a substep -/

namespace Physics

variable {K : Type*} [Field K] [LinearOrder K] [IsStrictOrderedRing K]

theorem clip_mem {v : K} : 0 ≤ clip v 0 1 ∧ clip v 0 1 ≤ 1 := ⟨le_min (le_max_right _ _) zero_le_one, min_le_right _ _⟩

theorem partLoadPowerFraction_nonneg (f : K) : 0 ≤ partLoadPowerFraction f := by
  obtain ⟨hlow, hhigh⟩ := clip_mem (v := f)
  have hsquare : 0 ≤ clip f 0 1 ^ 2 := sq_nonneg _
  have hcube : clip f 0 1 ^ 3 ≤ clip f 0 1 ^ 2 := pow_le_pow_of_le_one hlow hhigh (by decide)
  unfold partLoadPowerFraction
  dsimp only
  linarith only [hlow, hsquare, hcube]

theorem fanPowerW_nonneg {design : K} (hdesign : 0 ≤ design) (flow : K) : 0 ≤ fanPowerW flow design := by
  unfold fanPowerW
  split_ifs
  · exact mul_nonneg hdesign (partLoadPowerFraction_nonneg flow)
  · exact le_rfl

/-- What of a substep is never negative. -/
structure StepResult.Fits (r : StepResult K) : Prop where
  cooling : 0 ≤ r.coolingW
  coil : r.coolingW ≤ r.coilW
  latent : 0 ≤ r.latentMetW
  fan : 0 ≤ r.fanW
  heating : 0 ≤ r.heatingNetW
  light : 0 ≤ r.qLightW
  equipment : 0 ≤ r.qEquipW
  occupants : 0 ≤ r.occupants

section Step

variable {z : Zone K} {p : Plant K} {x : Exposure K} (hz : z.Sound) (hin : 0 ≤ x.occupancyFraction)

include hz hin

theorem qLatentW_nonneg (indoorHumidity : K) : 0 ≤ z.qLatentW x indoorHumidity := by
  have hair : 0 ≤ (z.uaVentilation x + z.uaInfiltration) / AIR_CP_J_KGK :=
    div_nonneg (add_nonneg (uaVentilation_nonneg hz hin) hz.infiltration) airCp_pos.le
  have hheat : (0 : K) ≤ LATENT_HEAT_J_KG := by
    unfold LATENT_HEAT_J_KG
    norm_num
  have houtside :
      0 ≤ latentPowerW ((z.uaVentilation x + z.uaInfiltration) / AIR_CP_J_KGK) x.outdoorHumidity indoorHumidity :=
    mul_nonneg (mul_nonneg hair (le_max_right _ _)) hheat
  exact add_nonneg houtside (mul_nonneg (mul_nonneg hz.occupancy hin) hz.latent)

omit hz hin in
/-- The fan never draws less than its least flow asks for: it runs while anyone is in. -/
theorem fanFloorW_le_fanW (hfan : 0 ≤ p.designFanW) (temperature dt : K) :
    z.fanFloorW x p.designFanW ≤ (integrateSubstep z p temperature x dt).fanW := by
  by_cases hventilating : z.ventilating x = true
  · have hfloor := fanFloorW_le (z := z) (x := x) hfan
      (clip (z.coolingNeedW x p.designFanW temperature dt) 0 z.capacityW)
    show _ ≤ fanPowerW (flowFraction _ _ (z.ventilating x || _ || _)) _
    rw [hventilating, Bool.true_or, Bool.true_or]
    exact hfloor
  · have hoff : z.fanFloorW x p.designFanW = 0 := by
      unfold Zone.fanFloorW fanPowerW
      rw [if_neg hventilating, if_neg (lt_irrefl 0)]
    rw [hoff]
    exact fanPowerW_nonneg hfan _

/-- **What one substep gives** has the signs that the columns ask for. -/
theorem step_fits (hcap : 0 ≤ z.capacityW) (hfan : 0 ≤ p.designFanW) (temperature dt : K) :
    (integrateSubstep z p temperature x dt).Fits := by
  have hcooling : 0 ≤ (integrateSubstep z p temperature x dt).coolingW := le_min (le_max_right _ _) hcap
  have hlatent := qLatentW_nonneg hz hin p.indoorHumidity
  have hfloor := fanFloorW_le_fanW (z := z) (x := x) hfan temperature dt
  have hextra : 0 ≤ HEAT_TO_AIRSTREAM_FRACTION *
      ((integrateSubstep z p temperature x dt).fanW - z.fanFloorW x p.designFanW) := by
    rw [HEAT_TO_AIRSTREAM_FRACTION, one_mul]
    exact sub_nonneg.mpr hfloor
  have hlatentMet : 0 ≤ (integrateSubstep z p temperature x dt).latentMetW := by
    show 0 ≤ if 0 < clip _ 0 _ then _ else 0
    split_ifs
    · exact hlatent
    · exact le_rfl
  have hcoil : (integrateSubstep z p temperature x dt).coolingW ≤ (integrateSubstep z p temperature x dt).coilW := by
    show _ ≤ (integrateSubstep z p temperature x dt).coolingW + (integrateSubstep z p temperature x dt).latentMetW +
      (if 0 < clip (z.coolingNeedW x p.designFanW temperature dt) 0 z.capacityW then HEAT_TO_AIRSTREAM_FRACTION *
        ((integrateSubstep z p temperature x dt).fanW - z.fanFloorW x p.designFanW) else 0)
    split_ifs
    · linarith only [hlatentMet, hextra]
    · linarith only [hlatentMet]
  have hstandby : (0 : K) ≤ PLUG_STANDBY_FRACTION := by
    unfold PLUG_STANDBY_FRACTION
    norm_num
  have hrest : (0 : K) ≤ 1 - PLUG_STANDBY_FRACTION := by
    unfold PLUG_STANDBY_FRACTION
    norm_num
  exact
    { cooling := hcooling
      coil := hcoil
      latent := hlatentMet
      fan := fanPowerW_nonneg hfan _
      heating := le_max_right _ _
      light := mul_nonneg hz.lighting (hin.trans (le_max_left _ _))
      equipment := mul_nonneg hz.equipment (add_nonneg hstandby (mul_nonneg hrest hin))
      occupants := mul_nonneg hz.occupancy hin }

end Step

end Physics

/-! ### The plant of a site -/

theorem Ahu.rating_nonneg (ahu : Ahu) : ∀ r ∈ ahu.rating, 0 ≤ r.1 ∧ 0 ≤ r.2 := by
  intro r hr
  unfold rating at hr
  split at hr
  · rename_i kw cmh hkw hcmh
    split_ifs at hr with hpos
    · obtain rfl := Option.some.inj hr
      exact ⟨ahu.power_nonneg kw hkw, hpos.le⟩
    · cases hr
  · cases hr

/-- A fan of the register draws no less than nothing. -/
theorem specificFanPower_nonneg (ahus : List Ahu) : ∀ sfp ∈ specificFanPowerWPerLS ahus, 0 ≤ sfp := by
  intro sfp hsfp
  have hrows : ∀ r ∈ ahus.filterMap Ahu.rating, 0 ≤ r.1 ∧ 0 ≤ r.2 := by
    intro r hr
    obtain ⟨ahu, -, hrating⟩ := List.mem_filterMap.mp hr
    exact ahu.rating_nonneg r hrating
  have hkw : 0 ≤ ((ahus.filterMap Ahu.rating).map Prod.fst).sum := by
    refine List.sum_nonneg fun kw hkw => ?_
    obtain ⟨r, hr, rfl⟩ := List.mem_map.mp hkw
    exact (hrows r hr).1
  have hcmh : 0 ≤ ((ahus.filterMap Ahu.rating).map Prod.snd).sum := by
    refine List.sum_nonneg fun cmh hcmh => ?_
    obtain ⟨r, hr, rfl⟩ := List.mem_map.mp hcmh
    exact (hrows r hr).2
  unfold specificFanPowerWPerLS at hsfp
  dsimp only at hsfp
  split_ifs at hsfp with hnone
  · cases hsfp
  · obtain rfl := Option.some.inj hsfp
    exact div_nonneg (mul_nonneg hkw (by norm_num)) hcmh

namespace Premises

variable {ι : Type} (site : Premises ι)

theorem zone_sized (steps : ℕ) (z : ι) : ∃ designOutdoorC designOutdoorRhPct : ℚ, site.zone steps z =
    (zoneArrays (site.row z) (site.profile z) site.params).sizePlant site.np site.capacitySafetyFactor designOutdoorC
      designOutdoorRhPct := by
  unfold zone
  cases site.peak steps with
  | none => exact ⟨_, _, rfl⟩
  | some sample => exact ⟨_, _, rfl⟩

/-- Sizing leaves the measures as they are. -/
theorem zone_sound (steps : ℕ) (z : ι) : (site.zone steps z).Sound := by
  have hsound := Physics.zoneArrays_sound (site.row z) (site.profile z) site.params
  obtain ⟨c, rh, heq⟩ := site.zone_sized steps z
  rw [heq]
  exact ⟨hsound.1, hsound.2, hsound.3, hsound.4, hsound.5, hsound.6, hsound.7, hsound.8, hsound.9, hsound.10, hsound.11,
    hsound.12, hsound.13⟩

theorem occupancyFraction_nonneg (i : ℕ) (z : ι) : 0 ≤ (site.exposure i z).occupancyFraction := Physics.clip_mem.1

theorem heatingCop_pos (z : ι) : 0 < (site.profile z).heating :=
  Physics.getD_pos (site.profile z).cop_pos (site.profile z).heating_pos

theorem carbonFactor_nonneg : 0 ≤ site.carbonFactor := by
  unfold carbonFactor
  rcases h : site.params.gridCarbonKgPerKwh with _ | c
  · exact site.carbon_nonneg
  · exact site.params.carbon_nonneg c h

variable (hfactor : 0 ≤ site.capacitySafetyFactor)

include hfactor

theorem capacityW_nonneg (steps : ℕ) (z : ι) : 0 ≤ (site.zone steps z).capacityW := by
  obtain ⟨c, rh, heq⟩ := site.zone_sized steps z
  rw [heq]
  exact mul_nonneg hfactor (le_trans (by norm_num) (le_max_right _ _))

theorem designFanW_nonneg (steps : ℕ) (z : ι) : 0 ≤ site.designFanW steps z := by
  have hcap := site.capacityW_nonneg hfactor steps z
  unfold designFanW
  rcases h : specificFanPowerWPerLS site.ahus with _ | sfp
  · exact le_rfl
  · have hsfp := specificFanPower_nonneg site.ahus sfp h
    have hair : (0 : ℚ) ≤ AIR_CP_J_KGK * SUPPLY_AIR_DELTA_T_K * AIR_DENSITY_KG_M3 :=
      mul_nonneg (mul_nonneg Physics.airCp_pos.le (by norm_num [SUPPLY_AIR_DELTA_T_K])) Physics.airDensity_pos.le
    exact mul_nonneg (mul_nonneg (div_nonneg hcap hair) (by norm_num)) hsfp

theorem step_fits (steps : ℕ) (dt temperature : ℚ) (i : ℕ) (z : ι) : (site.step steps dt temperature i z).Fits := by
  have hfan : 0 ≤ (site.plant steps z).designFanW := site.designFanW_nonneg hfactor steps z
  unfold step
  exact Physics.step_fits (site.zone_sound steps z) (site.occupancyFraction_nonneg i z)
    (site.capacityW_nonneg hfactor steps z)
    hfan temperature dt

end Premises

/-! ### The rows -/

/-- The keys whose sums a CHECK is on. -/
def checked : List Key := [.hvac, .light, .plug, .unmet, .occupants, .latent, .fan]

namespace Premises

variable {ι : Type} (site : Premises ι) (steps : ℕ) {dt : ℚ} (hdt : 0 ≤ dt)

/-- A substep is unmet for all its time or not at all. -/
theorem unmet_eq (temperature : ι → ℚ) (i : ℕ) (z : ι) :
    (site.building steps dt).contribution dt i ((site.building steps dt).integrateSubstep temperature i) .unmet z =
      dt / 3600 ∨
    (site.building steps dt).contribution dt i ((site.building steps dt).integrateSubstep temperature i) .unmet z =
      0 := by
  unfold Building.contribution
  dsimp only
  split_ifs
  · exact .inl rfl
  · exact .inr rfl

include hdt

/-- **What a substep adds** to a sum that is checked is not negative, from whatever temperatures. -/
theorem contribution_nonneg (hfactor : 0 ≤ site.capacitySafetyFactor) (temperature : ι → ℚ) (i : ℕ) (z : ι) :
    ∀ key ∈ checked, 0 ≤ (site.building steps dt).contribution dt i
      ((site.building steps dt).integrateSubstep temperature i) key z := by
  have hfits := site.step_fits hfactor steps dt (temperature z) i z
  have hkwh : 0 ≤ dt / 3600000 := div_nonneg hdt (by norm_num)
  have hcop : 0 < (site.zone steps z).cop := (site.zone_sound steps z).cop
  have hcoil : 0 ≤ (site.step steps dt (temperature z) i z).coilW := hfits.cooling.trans hfits.coil
  have hcoilKw : 0 ≤ (site.step steps dt (temperature z) i z).coilW / (site.zone steps z).cop :=
    div_nonneg hcoil hcop.le
  have hheatingKw : 0 ≤ (site.step steps dt (temperature z) i z).heatingNetW / (site.profile z).heating :=
    div_nonneg hfits.heating (site.heatingCop_pos z).le
  have hlatentKw : 0 ≤ (site.step steps dt (temperature z) i z).latentMetW / (site.zone steps z).cop :=
    div_nonneg hfits.latent hcop.le
  intro key hkey
  simp only [checked, List.mem_cons, List.not_mem_nil, or_false] at hkey
  rcases hkey with rfl | rfl | rfl | rfl | rfl | rfl | rfl
  · exact mul_nonneg (add_nonneg (add_nonneg hcoilKw hheatingKw) hfits.fan) hkwh
  · exact mul_nonneg hfits.light hkwh
  · exact mul_nonneg hfits.equipment hkwh
  · rcases site.unmet_eq steps temperature i z with heq | heq
    · rw [heq]
      exact div_nonneg hdt (by norm_num)
    · exact heq.ge
  · exact hfits.occupants
  · exact mul_nonneg hlatentKw hkwh
  · exact mul_nonneg hfits.fan hkwh

/-- The sums of an interval. -/
theorem accumulated_nonneg (hfactor : 0 ≤ site.capacitySafetyFactor) (i n : ℕ) (z : ι) {key : Key}
    (hkey : key ∈ checked) : 0 ≤ (site.building steps dt).accumulated Double.nearest dt 0 i n key z := by
  induction n with
  | zero => exact le_rfl
  | succ n ih =>
    rw [Building.accumulated_succ']
    exact Double.nearest_nonneg (add_nonneg ih
      (Double.nearest_nonneg (site.contribution_nonneg steps hdt hfactor _ (i + n) z key hkey)))

omit hdt in
/-- Each addition of unmet hours rounds up by `2 ^ -53` of the sum at most. -/
theorem accumulated_unmet_le (hdt : 1 ≤ dt) (i n : ℕ) (z : ι) :
    Double.Normal ((site.building steps dt).accumulated Double.nearest dt 0 i n .unmet z) ∧
      (site.building steps dt).accumulated Double.nearest dt 0 i n .unmet z ≤
        n * (dt / 3600) * (1 + 1 / 2 ^ 53) ^ (n + 1) := by
  have hhours : 2 ^ (-1022 : ℤ) ≤ dt / 3600 :=
    le_trans (by decide +kernel : (2 : ℚ) ^ (-1022 : ℤ) ≤ 1 / 3600) (div_le_div_of_nonneg_right hdt (by norm_num))
  induction n with
  | zero => exact ⟨.inl rfl, by simp [Building.accumulated]⟩
  | succ n ih =>
    obtain ⟨hnormal, hle⟩ := ih
    set unmet := (site.building steps dt).accumulated Double.nearest dt 0 i n .unmet z
    set added := (site.building steps dt).added dt (i + n) .unmet z with hadded
    have hmem : Double.Normal added ∧ added ≤ dt / 3600 := by
      rcases site.unmet_eq steps ((site.building steps dt).trajectory (i + n)) (i + n) z with heq | heq
      · exact ⟨.inr (hhours.trans heq.ge), heq.le⟩
      · exact ⟨.inl heq, heq.le.trans ((zpow_pos two_pos _).le.trans hhours)⟩
    have hsum : (site.building steps dt).accumulated Double.nearest dt 0 i (n + 1) .unmet z =
        Double.nearest (unmet + Double.nearest added) := by
      rw [Building.accumulated_succ']
      rfl
    have hnext := hnormal.add hmem.1.nearest
    rw [hsum]
    refine ⟨hnext.nearest, ?_⟩
    have hone : (1 : ℚ) ≤ 1 + 1 / 2 ^ 53 := by norm_num
    have hround : Double.nearest added ≤ dt / 3600 * (1 + 1 / 2 ^ 53) ^ (n + 1) :=
      calc Double.nearest added ≤ added * (1 + 1 / 2 ^ 53) := hmem.1.nearest_le
        _ ≤ dt / 3600 * (1 + 1 / 2 ^ 53) := mul_le_mul_of_nonneg_right hmem.2 (by norm_num)
        _ ≤ dt / 3600 * (1 + 1 / 2 ^ 53) ^ (n + 1) :=
          mul_le_mul_of_nonneg_left (le_self_pow₀ hone (Nat.succ_ne_zero n)) ((zpow_pos two_pos _).le.trans hhours)
    calc Double.nearest (unmet + Double.nearest added)
        ≤ (unmet + Double.nearest added) * (1 + 1 / 2 ^ 53) := hnext.nearest_le
      _ ≤ (n * (dt / 3600) * (1 + 1 / 2 ^ 53) ^ (n + 1) + dt / 3600 * (1 + 1 / 2 ^ 53) ^ (n + 1)) * (1 + 1 / 2 ^ 53) :=
        mul_le_mul_of_nonneg_right (add_le_add hle hround) (by norm_num)
      _ = (n + 1 : ℕ) * (dt / 3600) * (1 + 1 / 2 ^ 53) ^ (n + 1 + 1) := by
        push_cast
        ring

/-- **A row** of an interval passes the checks of its table. -/
theorem row_checks (hfactor : 0 ≤ site.capacitySafetyFactor) {intervalHours : ℚ} (hhours : 0 ≤ intervalHours)
    (start : Instant) (i n stepsDone : ℕ) (z : ι) :
    ((site.building steps dt).row intervalHours start
      ((site.building steps dt).accumulated Double.nearest dt 0 i n) stepsDone z).Checks := by
  have hsum : ∀ key ∈ checked, 0 ≤ (site.building steps dt).accumulated Double.nearest dt 0 i n key z :=
    fun key hkey => site.accumulated_nonneg steps hdt hfactor i n z hkey
  have hhvac := hsum .hvac (by simp [checked])
  have hlight := hsum .light (by simp [checked])
  have hplug := hsum .plug (by simp [checked])
  have htotal := add_nonneg (add_nonneg hhvac hlight) hplug
  exact
    { hvacLoadKwh := hhvac
      lightingKwh := hlight
      plugKwh := hplug
      totalKwh := htotal
      co2Kg := mul_nonneg htotal site.carbonFactor_nonneg
      peakDemandKw := div_nonneg htotal hhours
      occupancyCount := div_nonneg (hsum .occupants (by simp [checked])) (Nat.cast_nonneg stepsDone)
      unmetHours := hsum .unmet (by simp [checked])
      latentLoadKwh := hsum .latent (by simp [checked])
      fanLoadKwh := hsum .fan (by simp [checked]) }

end Premises

section Run

variable {settings : Settings} {request : SimulationRequest}

/-- What a run has written, row by row. -/
theorem row_of_run {ι : Type} {rnd : ℚ → ℚ} {b : Building ι} {rows : List (ResultRow ι)} {integrated : ℕ}
    (hrun : runIn rnd settings request b = .ok (rows, integrated)) : ∀ row ∈ rows, ∃ j < nIntervals request,
      row ∈ b.rowsIn rnd (substepS settings request) (request.intervalS / 3600) (nSteps settings request)
        (substepsPerInterval settings request) (intervalStart request) j := by
  have hs := substepS_pos_of_ok hrun
  have hS : 0 < seconds (substepS settings request) := by unfold seconds; omega
  have hz : b.zones ≠ [] := by
    intro hz
    rw [runIn, if_pos hz] at hrun
    cases hrun
  have hcells : b.zones.length * nSteps settings request ≤ settings.maxCells := by
    by_contra hmany
    have hI : 0 < seconds request.intervalS := by have := request.minInterval; unfold seconds; omega
    unfold runIn at hrun
    rw [if_neg hz, if_neg hs.ne', timeline_eq hI, timeline_eq hS] at hrun
    simp only [List.length_map, List.length_range] at hrun
    rw [if_pos (by exact not_le.mp hmany)] at hrun
    cases hrun
  rw [runIn_eq rnd b hz hs hcells] at hrun
  obtain ⟨rfl, -⟩ := Prod.mk.inj (Except.ok.inj hrun)
  intro row hrow
  obtain ⟨j, hj, hmem⟩ := List.mem_flatMap.mp hrow
  exact ⟨j, List.mem_range.mp hj, hmem⟩

variable (settings request)

/-- The hours that are integrated of interval `j`. -/
def integratedHours (j : ℕ) : ℚ :=
  (min ((j + 1) * substepsPerInterval settings request) (nSteps settings request) -
    j * substepsPerInterval settings request : ℕ) * (substepS settings request / 3600)

variable {settings request}

/-- Few enough roundings leave no trace of a part in `10 ^ 11`. -/
theorem pow_rounding_le {n : ℕ} (hn : n ≤ 86400) : (1 + 1 / 2 ^ 53 : ℚ) ^ (n + 1) ≤ 1 + 1 / 10 ^ 11 := by
  have hone : (1 : ℚ) ≤ 1 + 1 / 2 ^ 53 := by norm_num
  have hpow := pow_le_pow_right₀ hone (Nat.succ_le_succ hn)
  -- Bernoulli for the reciprocal
  have hlow : 1 + ((86400 + 1 : ℕ) : ℚ) * (-(1 / 2 ^ 53)) ≤ (1 + -(1 / 2 ^ 53)) ^ (86400 + 1) :=
    one_add_mul_le_pow (by norm_num) _
  have hprod : (1 + 1 / 2 ^ 53 : ℚ) ^ (86400 + 1) * (1 + -(1 / 2 ^ 53)) ^ (86400 + 1) ≤ 1 := by
    rw [← mul_pow]
    exact pow_le_one₀ (by norm_num) (by norm_num)
  have hpos : (0 : ℚ) < 1 + ((86400 + 1 : ℕ) : ℚ) * (-(1 / 2 ^ 53)) := by norm_num
  have hquot : (1 + 1 / 2 ^ 53 : ℚ) ^ (86400 + 1) ≤ 1 / (1 + ((86400 + 1 : ℕ) : ℚ) * (-(1 / 2 ^ 53))) := by
    rw [le_div_iff₀ hpos]
    exact (mul_le_mul_of_nonneg_left hlow (by positivity)).trans hprod
  exact hpow.trans (hquot.trans (by norm_num))

theorem substepsPerInterval_le (hs : 0 < substepS settings request) :
    substepsPerInterval settings request ≤ 86400 := by
  have hle := perInterval_mul_le hs
  have hmax := request.maxInterval
  have hmul : (substepsPerInterval settings request : ℤ) ≤ substepsPerInterval settings request *
      substepS settings request := le_mul_of_one_le_right (Int.natCast_nonneg _) hs
  omega

/-- **The rows fit the schema**: whatever zones, profiles and requests are admitted, and whatever the weather is,
every row that a run writes passes all CHECK constraints and has no more unmet hours than were integrated of its
interval, but for a part in `10 ^ 11`; and in every substep the fan draws at least its floor and the coil delivers at
least the sensible cooling, which is not negative. -/
theorem rows_fit {ι : Type} (site : Premises ι) (hfactor : 0 ≤ site.capacitySafetyFactor) (settings : Settings)
    (request : SimulationRequest) :
    (∀ rows integrated,
      runIn Double.nearest settings request
        (site.building (nSteps settings request) (substepS settings request)) = .ok (rows, integrated) →
      ∀ row ∈ rows, row.Checks ∧ ∃ j < nIntervals request, row.intervalStart = intervalStart request j ∧
        row.unmetHours ≤ integratedHours settings request j * (1 + 1 / 10 ^ 11)) ∧
    ∀ (temperature : ℚ) (i : ℕ) (z : ι),
      let r := site.step (nSteps settings request) (substepS settings request) temperature i z
      (site.zone (nSteps settings request) z).fanFloorW (site.exposure i z)
        (site.designFanW (nSteps settings request) z) ≤
        r.fanW ∧ 0 ≤ r.coolingW ∧ r.coolingW ≤ r.coilW := by
  constructor
  · intro rows integrated hrun row hrow
    have hpos := substepS_pos_of_ok hrun
    have hs : (1 : ℚ) ≤ substepS settings request := by exact_mod_cast hpos
    have hhours : (0 : ℚ) ≤ request.intervalS / 3600 := by
      have hmin := request.minInterval
      exact div_nonneg (by exact_mod_cast (by omega : 0 ≤ request.intervalS)) (by norm_num)
    obtain ⟨j, hj, hmem⟩ := row_of_run hrun row hrow
    obtain ⟨z, -, rfl⟩ := List.mem_map.mp hmem
    refine ⟨site.row_checks _ (zero_le_one.trans hs) hfactor hhours _ _ _ _ z, j, hj, rfl, ?_⟩
    have hunmet := (site.accumulated_unmet_le (nSteps settings request) hs
      (j * substepsPerInterval settings request)
      (min ((j + 1) * substepsPerInterval settings request) (nSteps settings request) -
        j * substepsPerInterval settings request) z).2
    refine hunmet.trans (mul_le_mul_of_nonneg_left (pow_rounding_le ?_) ?_)
    · have hle := substepsPerInterval_le hpos
      have hsucc : (j + 1) * substepsPerInterval settings request =
        j * substepsPerInterval settings request + substepsPerInterval settings request := by ring
      omega
    · exact mul_nonneg (Nat.cast_nonneg _) (div_nonneg (zero_le_one.trans hs) (by norm_num))
  · intro temperature i z
    have hfits := site.step_fits hfactor (nSteps settings request) (substepS settings request) temperature i z
    exact ⟨Physics.fanFloorW_le_fanW (site.designFanW_nonneg hfactor _ z) temperature _, hfits.cooling, hfits.coil⟩

end Run

/-! ### The rows of an hour -/

/-- The exponential by a power, and the logarithm by its tangent at 24 °C. -/
def tangents : Numerics ℚ := ⟨fun x => (1 + x / 1024) ^ 1024, fun x => 5694 / 1000 + (x - 29715 / 100) / (29715 / 100)⟩

/-- A hall with an air handler of 15 kW on a warm day. -/
def hallPremises : Premises Unit where
  zones := [()]
  row _ := Physics.hall
  profile _ := Physics.shed 100000 (by norm_num)
  params := Physics.asStored
  ahus := [⟨some 15, some 18000, by simp, by simp⟩]
  gridCarbonKgPerKwh := 42 / 100
  carbon_nonneg := by norm_num
  series _ := ⟨40, 55, fun _ => 300, fun _ => 1⟩
  np := tangents
  capacitySafetyFactor := 125 / 100

/-- The four rows of an hour in quarters. -/
theorem rows_fit_hall : ∃ rows integrated,
    runIn Double.nearest ⟨300, 5000000⟩ (hourAt 900 (by decide) (by decide))
      (hallPremises.building (nSteps ⟨300, 5000000⟩ (hourAt 900 (by decide) (by decide)))
        (substepS ⟨300, 5000000⟩ (hourAt 900 (by decide) (by decide)))) = .ok (rows, integrated) ∧
    ∀ row ∈ rows, row.Checks := by
  have hfactor : (0 : ℚ) ≤ hallPremises.capacitySafetyFactor := by
    show (0 : ℚ) ≤ 125 / 100
    norm_num
  have hrun := @runIn_eq ⟨300, 5000000⟩ (hourAt 900 (by decide) (by decide)) Unit Double.nearest
    (hallPremises.building (nSteps ⟨300, 5000000⟩ (hourAt 900 (by decide) (by decide)))
      (substepS ⟨300, 5000000⟩ (hourAt 900 (by decide) (by decide)))) (by simp [Premises.building, hallPremises])
      (by decide) (by decide)
  exact ⟨_, _, hrun, fun row hrow => ((rows_fit hallPremises hfactor _ _).1 _ _ hrun row hrow).1⟩

/-! ### Four hours in the cold -/

def frozenProfile : Physics.ThermalProfile ℚ :=
  { Physics.shed 500 (by norm_num) with deadbandK := 1, deadband_nonneg := zero_le_one }

/-- The hall in the frost: what it loses is more than its plant, sized for cooling, can heat. -/
def frozenPremises : Premises Unit :=
  { hallPremises with
    profile := fun _ => frozenProfile
    ahus := []
    series := fun _ => ⟨-26, 55, fun _ => 0, fun _ => 1⟩ }

/-- One row of four hours. -/
def fourHours : SimulationRequest where
  periodStart := 0
  periodEnd := seconds 14400
  intervalS := 14400
  minInterval := by decide
  maxInterval := by decide
  ordered := by decide
  maxIntervals := by decide

/-- A sum of equal terms. -/
theorem accumulated_const {ι : Type} (b : Building ι) (rnd : ℚ → ℚ) (dt : ℚ) {key : Key} {z : ι} {c : ℚ}
    (hc : ∀ i, b.added dt i key z = c) (i n : ℕ) :
    b.accumulated rnd dt 0 i n key z = (fun a => rnd (a + rnd c))^[n] 0 := by
  induction n with
  | zero => rfl
  | succ n ih =>
    rw [Function.iterate_succ_apply', ← ih, Building.accumulated_succ', ← hc (i + n)]
    rfl

/-- Its zone, with a small plant. -/
theorem frozen_zone (steps : ℕ) : ∃ capacityW ≤ (2250 : ℚ), frozenPremises.zone steps () =
    { zoneArrays Physics.hall frozenProfile Physics.asStored with capacityW } := by
  have hsized : ∃ c ≤ (42 : ℚ), ∃ rh, frozenPremises.zone steps () =
      (zoneArrays Physics.hall frozenProfile Physics.asStored).sizePlant tangents (125 / 100) c rh := by
    unfold Premises.zone Premises.peak
    cases (List.range steps).argmax fun i => (frozenPremises.series i).dryBulbC with
    | none => exact ⟨42, le_rfl, 55, rfl⟩
    | some i => exact ⟨-26, by norm_num, 55, rfl⟩
  obtain ⟨c, hc, rh, heq⟩ := hsized
  refine ⟨_, ?_, heq⟩
  have hdelta : max (c - 24) 0 ≤ 18 := max_le (by linarith only [hc]) (by norm_num)
  have hload : max (100 * max (c - 24) 0) 1000 ≤ 1800 := max_le (by linarith only [hdelta]) (by norm_num)
  simp only [zoneArrays, Physics.hall, frozenProfile, Physics.shed, Physics.asStored, Physics.ZoneRow.area,
    Physics.ZoneRow.volume, Physics.ZoneRow.occupancy, Physics.ZoneRow.wallArea, Physics.latentPowerW, scaleOf]
  norm_num
  linarith only [hload]

/-- It is too cold after each substep, and gets no warmer. -/
theorem frozen_step_le (steps i : ℕ) {temperature : ℚ} (ht : temperature ≤ 24) :
    (frozenPremises.step steps 300 temperature i ()).temperature ≤ 2235 / 100 := by
  obtain ⟨capacityW, hcap, hzone⟩ := frozen_zone steps
  have hfactor : 0 ≤ frozenPremises.capacitySafetyFactor := by norm_num [frozenPremises, hallPremises]
  have hcooling := (frozenPremises.step_fits hfactor steps 300 temperature i ()).cooling
  have hheating : (frozenPremises.step steps 300 temperature i ()).heatingW ≤ 2250 :=
    (min_le_right _ _).trans (by rw [hzone]; exact hcap)
  have hfloat : (frozenPremises.zone steps ()).freeFloat (frozenPremises.exposure i ())
      (frozenPremises.plant steps ()).designFanW temperature 300 =
        temperature + 100 * (-26 - temperature) * 300 / 500000 := by
    rw [hzone]
    simp [Physics.Zone.freeFloat, Physics.Zone.qNetW, Physics.Zone.qSolarW, Physics.Zone.qLightW,
      Physics.Zone.qEquipW, Physics.Zone.qPeopleW, Physics.Zone.uaVentilation, Physics.Zone.fanFloorW,
      Physics.Zone.ventilating, Physics.Zone.occupants, Physics.fanPowerW, zoneArrays, Physics.hall, frozenProfile,
      Physics.shed, Physics.asStored, Physics.ZoneRow.wallArea, Physics.ZoneRow.occupancy, Premises.exposure,
      frozenPremises]
    ring
  have hmass : (frozenPremises.zone steps ()).thermalCapacityJK = 500000 := by
    rw [hzone]
    norm_num [zoneArrays, frozenProfile, Physics.shed]
  have hstep : (frozenPremises.step steps 300 temperature i ()).temperature =
      (frozenPremises.zone steps ()).freeFloat (frozenPremises.exposure i ())
        (frozenPremises.plant steps ()).designFanW temperature 300 +
        ((frozenPremises.step steps 300 temperature i ()).heatingW -
          (frozenPremises.step steps 300 temperature i ()).coolingW) * 300 /
            (frozenPremises.zone steps ()).thermalCapacityJK := rfl
  rw [hstep, hfloat, hmass]
  linarith only [hcooling, hheating, ht]

theorem frozen_trajectory_le (steps i : ℕ) : (frozenPremises.building steps 300).trajectory i () ≤ 24 := by
  induction i with
  | zero =>
    obtain ⟨capacityW, -, hzone⟩ := frozen_zone steps
    show (frozenPremises.zone steps ()).setpoint ≤ 24
    rw [hzone]
    norm_num [zoneArrays, frozenProfile, Physics.shed, Physics.asStored]
  | succ i ih => exact (frozen_step_le steps i ih).trans (by norm_num)

/-- All of its time is unmet. -/
theorem frozen_added (steps i : ℕ) : (frozenPremises.building steps 300).added 300 i .unmet () = 1 / 12 := by
  have hcold := frozen_step_le steps i (frozen_trajectory_le steps i)
  obtain ⟨capacityW, -, hzone⟩ := frozen_zone steps
  have hlower : (frozenPremises.zone steps ()).lower = 235 / 10 := by
    rw [hzone]
    norm_num [Physics.Zone.lower, zoneArrays, frozenProfile, Physics.shed, Physics.asStored]
  have hin : (frozenPremises.exposure i ()).occupancyFraction = 1 := by
    norm_num [Premises.exposure, frozenPremises, hallPremises, Physics.asStored, scaleOf, Physics.clip]
  have hunmet : (5 / 100 : ℚ) < (frozenPremises.exposure i ()).occupancyFraction ∧
      ((frozenPremises.zone steps ()).upper + Building.unmetTolerance <
          (frozenPremises.step steps 300 ((frozenPremises.building steps 300).trajectory i ()) i ()).temperature ∨
        (frozenPremises.step steps 300 ((frozenPremises.building steps 300).trajectory i ()) i ()).temperature <
          (frozenPremises.zone steps ()).lower - Building.unmetTolerance) := by
    rw [hin, hlower]
    exact ⟨by norm_num, .inr (lt_of_le_of_lt hcold (by norm_num [Building.unmetTolerance]))⟩
  refine (if_pos hunmet).trans ?_
  norm_num

/-- A zone that is in use and out of its band for four hours: the sum of its 48 substeps is above 4. -/
theorem unmet_beyond_hours : ¬ ∀ (site : Premises Unit) (settings : Settings) (request : SimulationRequest),
    0 ≤ site.capacitySafetyFactor → ∀ rows integrated,
      runIn Double.nearest settings request
        (site.building (nSteps settings request) (substepS settings request)) = .ok (rows, integrated) →
      ∀ row ∈ rows, ∃ j < nIntervals request, row.intervalStart = intervalStart request j ∧
        row.unmetHours ≤ integratedHours settings request j := by
  intro hall
  have hrun := @runIn_eq ⟨300, 5000000⟩ fourHours Unit Double.nearest
    (frozenPremises.building (nSteps ⟨300, 5000000⟩ fourHours) (substepS ⟨300, 5000000⟩ fourHours))
    (by simp [Premises.building, frozenPremises, hallPremises]) (by decide) (by decide)
  obtain ⟨j, hj, -, hle⟩ := hall frozenPremises ⟨300, 5000000⟩ fourHours (by norm_num [frozenPremises, hallPremises])
    _ _ hrun _ (List.mem_flatMap.mpr ⟨0, by decide, List.mem_map_of_mem (List.mem_singleton.mpr rfl)⟩)
  obtain rfl : j = 0 := Nat.lt_one_iff.mp hj
  have hsum : (fun a => Double.nearest (a + Double.nearest (1 / 12)))^[48] 0 ≤
      integratedHours ⟨300, 5000000⟩ fourHours 0 := by
    rw [← accumulated_const _ Double.nearest 300 (frozen_added 48) 0 48]
    exact hle
  have hhours : integratedHours ⟨300, 5000000⟩ fourHours 0 = 4 := by decide +kernel
  rw [hhours] at hsum
  exact absurd hsum (by decide +kernel)

end DTwin.Sim
