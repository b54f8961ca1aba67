import DTwin.Lib.Numerals
import Mathlib.Algebra.Order.Field.Basic
import Mathlib.Tactic.FieldSimp
import Mathlib.Tactic.Linarith
import Mathlib.Tactic.NormNum

/-!
# DTwin.Sim.Physics — one zone, one substep

`integrate_substep`, `setpoint_band` and `size_plant` of `apps/sim/app/engine.py`, with `fans.py` and what they use of
`psychro.py`.  The arrays are worked zone by zone, so this is about one zone; numbers are exact.  `exp` and `log` are
those of the numerics library.
-/

namespace DTwin.Sim.Physics

variable {K : Type*} [Field K] [LinearOrder K]

/-- `np.clip`. -/
def clip (x lo hi : K) : K := min (max x lo) hi

/-! ## The fan -/

def MIN_FLOW_FRACTION : K := 3 / 10

def HEAT_TO_AIRSTREAM_FRACTION : K := 1

def partLoadPowerFraction (flowFraction : K) : K :=
  let f := clip flowFraction 0 1
  13 / 10000 + 147 / 1000 * f + 9506 / 10000 * f ^ 2 + -998 / 10000 * f ^ 3

def flowFraction (sensibleLoadW capacityW : K) (running : Bool) : K :=
  let loadFraction := if 0 < capacityW then sensibleLoadW / capacityW else 0
  if running then clip loadFraction MIN_FLOW_FRACTION 1 else 0

def fanPowerW (flowFrac designPowerW : K) : K :=
  if 0 < flowFrac then designPowerW * partLoadPowerFraction flowFrac else 0

/-! ## Moist air -/

/-- `np.exp` and `np.log`. -/
structure Numerics (K : Type*) where
  exp : K → K
  log : K → K

def STANDARD_PRESSURE_PA : K := 101325

def LATENT_HEAT_J_KG : K := 2450000

def saturationPressurePa (np : Numerics K) (dryBulbC : K) : K :=
  let t := dryBulbC + 27315 / 100
  np.exp (-58002206 / 10000 / t + 13914993 / 10000000 - 48640239 / 1000000000 * t + 41764768 / 1000000000000 * t ^ 2
    - 14452093 / 1000000000000000 * t ^ 3 + 65459673 / 10000000 * np.log t)

def humidityRatio (np : Numerics K) (dryBulbC rhPct : K) : K :=
  let rh := clip rhPct 0 100 / 100
  let pW := min (rh * saturationPressurePa np dryBulbC) (STANDARD_PRESSURE_PA * (999 / 1000))
  621945 / 1000000 * pW / (STANDARD_PRESSURE_PA - pW)

def latentPowerW (massFlowKgS humidityOut humidityIn : K) : K :=
  massFlowKgS * max (humidityOut - humidityIn) 0 * LATENT_HEAT_J_KG

/-! ## The zone -/

def AIR_DENSITY_KG_M3 : K := 12 / 10

def AIR_CP_J_KGK : K := 1005

def DESIGN_SOLAR_W_M2 : K := 800

def MIN_LIGHTING_FRACTION : K := 5 / 100

def PLUG_STANDBY_FRACTION : K := 3 / 10

def INDOOR_TARGET_RH_PCT : K := 50

def J_PER_KWH : K := 3600000

/-- A zone of `ZoneArrays`. -/
structure Zone (K : Type*) where
  windowArea : K
  shgc : K
  thermalCapacityJK : K
  uaEnvelope : K
  uaInfiltration : K
  lightingW : K
  equipmentW : K
  designOccupancy : K
  occupancyGainW : K
  occupancyLatentW : K
  ventilationM3SPerson : K
  setpoint : K
  deadband : K
  cop : K
  capacityW : K

/-- What a substep finds outside, and who is in. -/
structure Exposure (K : Type*) where
  tOut : K
  irradiance : K
  occupancyFraction : K
  outdoorHumidity : K

namespace Zone

variable (z : Zone K) (x : Exposure K)

/-- `setpoint_band`. -/
def lower : K := z.setpoint - z.deadband / 2

def upper : K := z.setpoint + z.deadband / 2

def occupants : K := z.designOccupancy * x.occupancyFraction

def qSolarW : K := z.windowArea * z.shgc * x.irradiance

def qLightW : K := z.lightingW * max x.occupancyFraction MIN_LIGHTING_FRACTION

def qEquipW : K := z.equipmentW * (PLUG_STANDBY_FRACTION + (1 - PLUG_STANDBY_FRACTION) * x.occupancyFraction)

def qPeopleW : K := z.occupants x * z.occupancyGainW

def uaVentilation : K := z.occupants x * z.ventilationM3SPerson * AIR_DENSITY_KG_M3 * AIR_CP_J_KGK

def ventilating : Bool := 0 < z.occupants x

/-- The fan at the least flow, while anyone is in. -/
def fanFloorW (designFanW : K) : K := fanPowerW (if z.ventilating x then MIN_FLOW_FRACTION else 0) designFanW

/-- `q_net`, at a temperature of the zone. -/
def qNetW (designFanW temperature : K) : K :=
  z.qSolarW x + z.qLightW x + z.qEquipW x + z.qPeopleW x
    + z.uaEnvelope * (x.tOut - temperature) + z.uaInfiltration * (x.tOut - temperature)
    + z.uaVentilation x * (x.tOut - temperature) + HEAT_TO_AIRSTREAM_FRACTION * z.fanFloorW x designFanW

def qLatentW (indoorHumidity : K) : K :=
  latentPowerW ((z.uaVentilation x + z.uaInfiltration) / AIR_CP_J_KGK) x.outdoorHumidity indoorHumidity
    + z.occupants x * z.occupancyLatentW

/-- Where the zone floats to in `dt` seconds without plant. -/
def freeFloat (designFanW temperature dt : K) : K :=
  temperature + z.qNetW x designFanW temperature * dt / z.thermalCapacityJK

/-- The power that brings the free float down to the band, and up to it. -/
def coolingNeedW (designFanW temperature dt : K) : K :=
  let float := z.freeFloat x designFanW temperature dt
  if z.upper < float then (float - z.upper) * (z.thermalCapacityJK / dt) else 0

def heatingNeedW (designFanW temperature dt : K) : K :=
  let float := z.freeFloat x designFanW temperature dt
  if float < z.lower then (z.lower - float) * (z.thermalCapacityJK / dt) else 0

/-- `size_plant`; `capacitySafetyFactor` is a setting. -/
def sizePlant (np : Numerics K) (capacitySafetyFactor designOutdoorC designOutdoorRhPct : K) : Zone K :=
  let ventilationUa := z.designOccupancy * z.ventilationM3SPerson * AIR_DENSITY_KG_M3 * AIR_CP_J_KGK
  let deltaT := max (designOutdoorC - z.setpoint) 0
  let designLatent :=
    latentPowerW ((ventilationUa + z.uaInfiltration) / AIR_CP_J_KGK)
      (humidityRatio np designOutdoorC designOutdoorRhPct)
      (humidityRatio np z.setpoint INDOOR_TARGET_RH_PCT) + z.designOccupancy * z.occupancyLatentW
  let designLoad :=
    z.lightingW + z.equipmentW + z.designOccupancy * z.occupancyGainW + z.windowArea * z.shgc * DESIGN_SOLAR_W_M2
      + designLatent + (z.uaEnvelope + z.uaInfiltration + ventilationUa) * deltaT
  { z with capacityW := capacitySafetyFactor * max designLoad 1000 }

end Zone

/-! ## A substep -/

structure StepResult (K : Type*) where
  temperature : K
  coolingW : K
  heatingW : K
  latentMetW : K
  fanW : K
  coilW : K
  heatingNetW : K
  qNetW : K
  qSolarW : K
  qLightW : K
  qEquipW : K
  qPeopleW : K
  qEnvelopeW : K
  qVentilationW : K
  occupants : K

/-- The constants of a run: `indoor_humidity` and `design_fan_w` of the zone. -/
structure Plant (K : Type*) where
  indoorHumidity : K
  designFanW : K

/-- `integrate_substep`. -/
def integrateSubstep (z : Zone K) (p : Plant K) (temperature : K) (x : Exposure K) (dt : K) : StepResult K :=
  let deltaT := x.tOut - temperature
  let freeFloat := z.freeFloat x p.designFanW temperature dt
  let cooling := clip (z.coolingNeedW x p.designFanW temperature dt) 0 z.capacityW
  let heating := clip (z.heatingNeedW x p.designFanW temperature dt) 0 z.capacityW
  let latentMet := if 0 < cooling then z.qLatentW x p.indoorHumidity else 0
  let running := z.ventilating x || 0 < cooling || 0 < heating
  let fanW := fanPowerW (flowFraction cooling z.capacityW running) p.designFanW
  let fanHeatExtra := HEAT_TO_AIRSTREAM_FRACTION * (fanW - z.fanFloorW x p.designFanW)
  { temperature := freeFloat + (heating - cooling) * dt / z.thermalCapacityJK
    coolingW := cooling
    heatingW := heating
    latentMetW := latentMet
    fanW := fanW
    coilW := cooling + latentMet + if 0 < cooling then fanHeatExtra else 0
    heatingNetW := max (heating - if 0 < heating then fanHeatExtra else 0) 0
    qNetW := z.qNetW x p.designFanW temperature
    qSolarW := z.qSolarW x
    qLightW := z.qLightW x
    qEquipW := z.qEquipW x
    qPeopleW := z.qPeopleW x
    qEnvelopeW := z.uaEnvelope * deltaT
    qVentilationW := z.uaInfiltration * deltaT + z.uaVentilation x * deltaT
    occupants := z.occupants x }

/-- The substeps of a run, each from the temperature that the one before has left. -/
def substeps (z : Zone K) (p : Plant K) (dt : K) : K → List (Exposure K) → K × List (StepResult K)
  | temperature, [] => (temperature, [])
  | temperature, x :: xs =>
    let r := integrateSubstep z p temperature x dt
    let rest := substeps z p dt r.temperature xs
    (rest.1, r :: rest.2)

end DTwin.Sim.Physics
