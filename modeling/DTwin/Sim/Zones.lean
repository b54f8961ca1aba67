import DTwin.Sim.Physics

/-!
# DTwin.Sim.Zones — the zones of a run, as the schema admits them

`ZoneArrays.__init__`: a zone of the balance from a row of `ZONE_SQL` and the parameters of the request.  What the CHECK
constraints of `thermal_profiles` and `zones` and the bounds of `SimulationParams` promise is part of the rows.
-/

namespace DTwin.Sim.Physics

variable (K : Type*) [Field K] [LinearOrder K]

/-- A row of `thermal_profiles`. -/
structure ThermalProfile where
  uValueWallWM2k : K
  uValueWindowWM2k : K
  windowToWallRatio : K
  shgc : K
  infiltrationAch : K
  thermalMassKjPerK : K
  lightingPowerDensityWM2 : K
  equipmentPowerDensityWM2 : K
  occupancyHeatGainWPerson : K
  setpointTempC : K
  deadbandK : K
  ventilationLSPerson : K
  hvacCop : K
  heatingCop : Option K
  wall_pos : 0 < uValueWallWM2k
  window_pos : 0 < uValueWindowWM2k
  ratio_mem : 0 ≤ windowToWallRatio ∧ windowToWallRatio ≤ 1
  shgc_mem : 0 ≤ shgc ∧ shgc ≤ 1
  infiltration_nonneg : 0 ≤ infiltrationAch
  mass_pos : 0 < thermalMassKjPerK
  lighting_nonneg : 0 ≤ lightingPowerDensityWM2
  equipment_nonneg : 0 ≤ equipmentPowerDensityWM2
  gain_nonneg : 0 ≤ occupancyHeatGainWPerson
  setpoint_mem : 10 ≤ setpointTempC ∧ setpointTempC ≤ 35
  deadband_nonneg : 0 ≤ deadbandK
  ventilation_nonneg : 0 ≤ ventilationLSPerson
  cop_pos : 0 < hvacCop
  heating_pos : ∀ cop ∈ heatingCop, 0 < cop

/-- The measures of a row of `zones`; a CHECK lets a NULL through. -/
structure ZoneRow where
  areaM2 : Option K
  volumeM3 : Option K
  designOccupancy : Option ℤ
  exteriorWallAreaM2 : Option K
  area_pos : ∀ a ∈ areaM2, 0 < a
  volume_pos : ∀ v ∈ volumeM3, 0 < v
  occupancy_nonneg : ∀ n ∈ designOccupancy, 0 ≤ n
  wall_nonneg : ∀ a ∈ exteriorWallAreaM2, 0 ≤ a

/-- `SimulationParams`. -/
structure SimulationParams where
  setpointDeltaK : Option K
  lightingScale : Option K
  equipmentScale : Option K
  occupancyScale : Option K
  hvacCopScale : Option K
  infiltrationScale : Option K
  gridCarbonKgPerKwh : Option K
  lighting_pos : ∀ s ∈ lightingScale, 0 < s
  equipment_pos : ∀ s ∈ equipmentScale, 0 < s
  occupancy_pos : ∀ s ∈ occupancyScale, 0 < s
  cop_pos : ∀ s ∈ hvacCopScale, 0 < s
  infiltration_pos : ∀ s ∈ infiltrationScale, 0 < s
  carbon_nonneg : ∀ c ∈ gridCarbonKgPerKwh, 0 ≤ c

variable {K}

/-- How much of what a person gives off warms the air. -/
def OCCUPANT_SENSIBLE_FRACTION : K := 62 / 100

/-! ## The columns of `ZONE_SQL` -/

namespace ZoneRow

variable (row : ZoneRow K)

def area : K := row.areaM2.getD 100

def volume : K := row.volumeM3.getD (row.areaM2.getD 100 * 3)

def occupancy : K := ((row.designOccupancy.getD 0 : ℤ) : K)

def wallArea : K := row.exteriorWallAreaM2.getD 0

end ZoneRow

/-- `COALESCE(tp.heating_cop, tp.hvac_cop)`. -/
def ThermalProfile.heating (profile : ThermalProfile K) : K := profile.heatingCop.getD profile.hvacCop

/-- `scale or 1.0`: a scale of zero is not admitted. -/
def scaleOf (scale : Option K) : K := scale.getD 1

/-- `ZoneArrays.__init__`. -/
def zoneArrays (row : ZoneRow K) (profile : ThermalProfile K) (params : SimulationParams K) : Zone K :=
  let windowArea := row.wallArea * profile.windowToWallRatio
  let opaqueArea := row.wallArea * (1 - profile.windowToWallRatio)
  { windowArea
    shgc := profile.shgc
    thermalCapacityJK := profile.thermalMassKjPerK * 1000
    uaEnvelope := profile.uValueWallWM2k * opaqueArea + profile.uValueWindowWM2k * windowArea
    uaInfiltration :=
      profile.infiltrationAch * scaleOf params.infiltrationScale * row.volume * AIR_DENSITY_KG_M3 * AIR_CP_J_KGK / 3600
    lightingW := profile.lightingPowerDensityWM2 * row.area * scaleOf params.lightingScale
    equipmentW := profile.equipmentPowerDensityWM2 * row.area * scaleOf params.equipmentScale
    designOccupancy := row.occupancy
    occupancyGainW := profile.occupancyHeatGainWPerson * OCCUPANT_SENSIBLE_FRACTION
    occupancyLatentW := profile.occupancyHeatGainWPerson * (1 - OCCUPANT_SENSIBLE_FRACTION)
    ventilationM3SPerson := profile.ventilationLSPerson / 1000
    setpoint := profile.setpointTempC + params.setpointDeltaK.getD 0
    deadband := profile.deadbandK
    cop := profile.hvacCop * scaleOf params.hvacCopScale
    capacityW := 0 }

/-! ## What the constraints give -/

variable [IsStrictOrderedRing K]

/-- The signs of a zone's measures. -/
structure Zone.Sound (z : Zone K) : Prop where
  windowArea : 0 ≤ z.windowArea
  shgc : 0 ≤ z.shgc
  thermalCapacity : 0 < z.thermalCapacityJK
  envelope : 0 ≤ z.uaEnvelope
  infiltration : 0 ≤ z.uaInfiltration
  lighting : 0 ≤ z.lightingW
  equipment : 0 ≤ z.equipmentW
  occupancy : 0 ≤ z.designOccupancy
  gain : 0 ≤ z.occupancyGainW
  latent : 0 ≤ z.occupancyLatentW
  ventilation : 0 ≤ z.ventilationM3SPerson
  deadband : 0 ≤ z.deadband
  cop : 0 < z.cop

omit [IsStrictOrderedRing K] in
theorem getD_pos {o : Option K} {d : K} (hd : 0 < d) (h : ∀ a ∈ o, 0 < a) : 0 < o.getD d := by
  cases o with
  | none => exact hd
  | some a => exact h a rfl

theorem scaleOf_pos {scale : Option K} (h : ∀ s ∈ scale, 0 < s) : 0 < scaleOf scale := getD_pos one_pos h

theorem airDensity_pos : (0 : K) < AIR_DENSITY_KG_M3 := by
  unfold AIR_DENSITY_KG_M3
  norm_num

theorem airCp_pos : (0 : K) < AIR_CP_J_KGK := by
  unfold AIR_CP_J_KGK
  norm_num

namespace ZoneRow

variable (row : ZoneRow K)

theorem area_pos' : 0 < row.area := getD_pos (by norm_num) row.area_pos

theorem volume_pos' : 0 < row.volume :=
  getD_pos (mul_pos (getD_pos (by norm_num) row.area_pos) (by norm_num)) row.volume_pos

theorem occupancy_nonneg' : (0 : K) ≤ row.occupancy := by
  unfold occupancy
  rcases h : row.designOccupancy with _ | n
  · simp
  · have hn : 0 ≤ n := row.occupancy_nonneg n h
    exact_mod_cast hn

omit [IsStrictOrderedRing K] in
theorem wallArea_nonneg : 0 ≤ row.wallArea := by
  unfold wallArea
  rcases h : row.exteriorWallAreaM2 with _ | a
  · exact le_rfl
  · exact row.wall_nonneg a h

end ZoneRow

/-- **The zones that are admitted** have measures of the right signs. -/
theorem zoneArrays_sound (row : ZoneRow K) (profile : ThermalProfile K) (params : SimulationParams K) :
    (zoneArrays row profile params).Sound := by
  have hratio := profile.ratio_mem
  have hwall := row.wallArea_nonneg
  have hwindow : 0 ≤ row.wallArea * profile.windowToWallRatio := mul_nonneg hwall hratio.1
  have hopaque : 0 ≤ row.wallArea * (1 - profile.windowToWallRatio) := mul_nonneg hwall (sub_nonneg.mpr hratio.2)
  have hair : 0 ≤ profile.infiltrationAch * scaleOf params.infiltrationScale * row.volume :=
    mul_nonneg (mul_nonneg profile.infiltration_nonneg (scaleOf_pos params.infiltration_pos).le) row.volume_pos'.le
  have hleak : 0 ≤ profile.infiltrationAch * scaleOf params.infiltrationScale * row.volume * AIR_DENSITY_KG_M3 *
      AIR_CP_J_KGK := mul_nonneg (mul_nonneg hair airDensity_pos.le) airCp_pos.le
  have hsensible : (0 : K) ≤ OCCUPANT_SENSIBLE_FRACTION := by
    unfold OCCUPANT_SENSIBLE_FRACTION
    norm_num
  have hlatent : (0 : K) ≤ 1 - OCCUPANT_SENSIBLE_FRACTION := by
    unfold OCCUPANT_SENSIBLE_FRACTION
    norm_num
  exact
    { windowArea := hwindow
      shgc := profile.shgc_mem.1
      thermalCapacity := mul_pos profile.mass_pos (by norm_num)
      envelope := add_nonneg (mul_nonneg profile.wall_pos.le hopaque) (mul_nonneg profile.window_pos.le hwindow)
      infiltration := div_nonneg hleak (by norm_num)
      lighting := mul_nonneg (mul_nonneg profile.lighting_nonneg row.area_pos'.le) (scaleOf_pos params.lighting_pos).le
      equipment := mul_nonneg (mul_nonneg profile.equipment_nonneg row.area_pos'.le)
        (scaleOf_pos params.equipment_pos).le
      occupancy := row.occupancy_nonneg'
      gain := mul_nonneg profile.gain_nonneg hsensible
      latent := mul_nonneg profile.gain_nonneg hlatent
      ventilation := div_nonneg profile.ventilation_nonneg (by norm_num)
      deadband := profile.deadband_nonneg
      cop := mul_pos profile.cop_pos (scaleOf_pos params.cop_pos) }

/-- The air that the people in bring with them. -/
theorem uaVentilation_nonneg {z : Zone K} (hz : z.Sound) {x : Exposure K} (hin : 0 ≤ x.occupancyFraction) :
    0 ≤ z.uaVentilation x :=
  mul_nonneg (mul_nonneg (mul_nonneg (mul_nonneg hz.occupancy hin) hz.ventilation) airDensity_pos.le) airCp_pos.le

/-! ## A zone that is admitted -/

/-- Hundred square metres of wall around the air of a room, in a wide band. -/
def shed (thermalMassKjPerK : ℚ) (hmass : 0 < thermalMassKjPerK) : ThermalProfile ℚ where
  uValueWallWM2k := 1
  uValueWindowWM2k := 1
  windowToWallRatio := 0
  shgc := 0
  infiltrationAch := 0
  thermalMassKjPerK
  lightingPowerDensityWM2 := 0
  equipmentPowerDensityWM2 := 0
  occupancyHeatGainWPerson := 0
  setpointTempC := 24
  deadbandK := 100
  ventilationLSPerson := 0
  hvacCop := 3
  heatingCop := none
  wall_pos := by norm_num
  window_pos := by norm_num
  ratio_mem := by norm_num
  shgc_mem := by norm_num
  infiltration_nonneg := le_rfl
  mass_pos := hmass
  lighting_nonneg := le_rfl
  equipment_nonneg := le_rfl
  gain_nonneg := le_rfl
  setpoint_mem := by norm_num
  deadband_nonneg := by norm_num
  ventilation_nonneg := le_rfl
  cop_pos := by norm_num
  heating_pos := by simp

def hall : ZoneRow ℚ where
  areaM2 := none
  volumeM3 := none
  designOccupancy := none
  exteriorWallAreaM2 := some 100
  area_pos := by simp
  volume_pos := by simp
  occupancy_nonneg := by simp
  wall_nonneg := by simp

def asStored : SimulationParams ℚ where
  setpointDeltaK := none
  lightingScale := none
  equipmentScale := none
  occupancyScale := none
  hvacCopScale := none
  infiltrationScale := none
  gridCarbonKgPerKwh := none
  lighting_pos := by simp
  equipment_pos := by simp
  occupancy_pos := by simp
  cop_pos := by simp
  infiltration_pos := by simp
  carbon_nonneg := by simp

end DTwin.Sim.Physics
