import DTwin.Control.Store
import DTwin.Lib.OrderedMap
import DTwin.Rules.Conditions
import DTwin.Types.Spatial
import Mathlib.Algebra.Order.Floor.Ring
import Mathlib.Data.Rat.Floor
import Mathlib.Tactic.Linarith
import Mathlib.Tactic.NormNum
import Mathlib.Tactic.Positivity

/-!
# DTwin.Device.Generate — what a point of the building reports

`generate`, `applyFault` and `effectiveSetpointC` of `apps/ingest/src/simulator/index.ts`, and `localTime`,
`occupancyFraction` and `outdoorTempC` of `context.ts`.  Numbers are rationals; `Math.random()` is a draw of the
caller. A counter moves on with the demand, which is clamped, so at a rate within fixed bounds (`slowest_le_rate`,
`rate_le_fastest`).
-/

namespace DTwin.Device

open Control OrderedMap

/-- What the language's library answers: `Math.sin`, and the parts that `Intl.DateTimeFormat` formats. -/
structure Library where
  sin : ℚ → ℚ
  /-- Hour, minute and weekday of an instant in a time zone. -/
  formatToParts : String → ℤ → ℕ × ℕ × String

/-! ## Context -/

/-- `ZoneContext`, as far as a reading depends on it. -/
structure ZoneContext where
  zoneType : ZoneType
  designOccupancy : ℚ
  setpointC : ℚ
  scheduleId : Option Uuid

structure EquipmentContext where
  equipmentType : EquipmentType
  ratedPowerKw : Option ℚ
  ratedAirflowCmh : Option ℚ
  isRunning : Bool

/-- The maps are looked up by key only; `overrides` is built from the list that the database answers. -/
structure SimContext where
  timezone : String
  overrides : List ActiveOverride
  zones : Uuid → Option ZoneContext
  equipment : Uuid → Option EquipmentContext
  schedules : Uuid → DayType → Option (List ℚ)

structure RegisteredSensor extends Rules.RegisteredSensor where
  isCumulative : Bool
  sampleIntervalS : ℤ
deriving DecidableEq

/-- `Math.PI`. -/
def PI : ℚ := 884279719003555 / 281474976710656

structure LocalTime where
  hour : ℚ
  dayType : DayType

/-- Local hour (fractional) and day type in the building's timezone. -/
def localTime (lib : Library) (now : ℤ) (timezone : String) : LocalTime :=
  let (hour, minute, weekday) := lib.formatToParts timezone now
  ⟨(hour % 24 : ℕ) + (minute : ℚ) / 60,
    if weekday = "Sat" then .saturday else if weekday = "Sun" then .sunday else .weekday⟩

def occupancyFraction (ctx : SimContext) (zone : Option ZoneContext) (time : LocalTime) : ℚ :=
  match zone.bind ZoneContext.scheduleId with
  | none => 0
  | some scheduleId => ((ctx.schedules scheduleId time.dayType).bind fun l => l[⌊time.hour⌋.toNat % 24]?).getD 0

def outdoorTempC (lib : Library) (hour : ℚ) : ℚ := 34 + 8 * lib.sin ((hour - 9) / 24 * 2 * PI)

/-- `Map.get` of the map built from the list. -/
def overrideOf (overrides : List ActiveOverride) (zoneId : Uuid) : Option ℚ :=
  (lastOf ActiveOverride.zoneId zoneId overrides).map ActiveOverride.setpointTempC

/-- The setpoint the equipment is actually working to. -/
def effectiveSetpointC (overrides : List ActiveOverride) (zoneId : Option Uuid) (designedC : Option ℚ) : ℚ :=
  ((zoneId.bind (overrideOf overrides)).or designedC).getD 23

def clamp (v lo hi : ℚ) : ℚ := min hi (max lo v)

/-- `noise`, of what `Math.random()` draws. -/
def noise (random scale : ℚ) : ℚ := (random - 1 / 2) * 2 * scale

/-- `Math.round`. -/
def round (x : ℚ) : ℚ := ⌊x + 1 / 2⌋

/-! ## A value -/

/-- What a reading depends on at one tick. -/
structure Moment where
  zone : Option ZoneContext
  equip : Option EquipmentContext
  hour : ℚ
  occ : ℚ
  outdoor : ℚ
  setpoint : ℚ

def moment (lib : Library) (ctx : SimContext) (sensor : RegisteredSensor) (time : LocalTime) : Moment :=
  let zone := sensor.zoneId.bind ctx.zones
  { zone
    equip := sensor.equipmentId.bind ctx.equipment
    hour := time.hour
    occ := occupancyFraction ctx zone time
    outdoor := outdoorTempC lib time.hour
    setpoint := effectiveSetpointC ctx.overrides sensor.zoneId (zone.map ZoneContext.setpointC) }

/-- How hard the air side is working. -/
def Moment.demand (m : Moment) : ℚ := clamp (0.2 + 0.55 * m.occ + (m.outdoor - m.setpoint) * 0.018) 0.15 1

def Moment.powerKw (m : Moment) (draw : ℕ → ℚ) : ℚ :=
  if m.equip.any fun e => !e.isRunning then 0
  else
    let rated := (m.equip.bind EquipmentContext.ratedPowerKw).getD 5
    match m.equip.map EquipmentContext.equipmentType with
    | some .chiller => clamp (rated * (0.35 + 0.5 * m.demand) + noise (draw 0) 4) 0 (rated * 1.1)
    | some .ahu => clamp (rated * (0.3 + 0.6 * m.demand) + noise (draw 0) 0.4) 0 rated
    | some .pump => clamp (rated * 0.72 + noise (draw 0) 0.6) 0 rated
    | some .coolingTower => clamp (rated * (0.4 + 0.45 * m.demand) + noise (draw 0) 0.8) 0 rated
    | some .lightingCircuit => clamp (rated * (if 0.05 < m.occ then 0.9 else 0.12) + noise (draw 0) 0.3) 0 rated
    | some .evCharger => if draw 0 < 0.12 then rated * (0.6 + draw 1 * 0.4) else 0
    | _ => clamp (rated * m.demand + noise (draw 0) 0.2) 0 rated

/-- What a counter gains in an hour: site load in kW, or water in m³/h. -/
def Moment.rate (m : Moment) : MetricType → ℚ
  | .energyKwh => 180 + 260 * m.demand
  | .waterM3 => 0.4 + 1.6 * m.demand
  | _ => 0

/-- The value, and the counter after it. -/
def generate (lib : Library) (m : Moment) (metric : MetricType) (accumulator dtHours : ℚ) (draw : ℕ → ℚ) : ℚ × ℚ :=
  match metric with
  | .temperatureC =>
    (match m.equip.map EquipmentContext.equipmentType with
      | some .chiller => 6.5 + noise (draw 0) 0.4
      | some .ahu => m.setpoint - 8 + noise (draw 0) 0.5
      | _ => m.setpoint + (m.outdoor - m.setpoint) * 0.035 + m.occ * 0.5 + noise (draw 0) 0.18, accumulator)
  | .setpointTempC => (m.setpoint, accumulator)
  | .humidityPct =>
    (clamp (48 + 6 * lib.sin ((m.hour - 4) / 24 * 2 * PI) + m.occ * 6 + noise (draw 0) 1.5) 20 85, accumulator)
  | .co2Ppm =>
    (if m.zone.any fun z => z.zoneType = .serverRoom then 420 + noise (draw 0) 12
      else clamp (430 + m.occ * 620 + noise (draw 0) 25) 400 2500, accumulator)
  | .occupancyCount =>
    let design := (m.zone.map ZoneContext.designOccupancy).getD 0
    (max 0 (round (design * m.occ + noise (draw 0) (max 1 (design * 0.08)))), accumulator)
  | .airflowCmh =>
    (clamp ((m.equip.bind EquipmentContext.ratedAirflowCmh).getD 3000 * m.demand + noise (draw 0) 60) 0 4000,
      accumulator)
  | .damperPositionPct => (clamp (m.demand * 100 + noise (draw 0) 3) 10 100, accumulator)
  | .valvePositionPct => (clamp (m.demand * 100 + noise (draw 0) 3) 10 100, accumulator)
  | .powerKw => (m.powerKw draw, accumulator)
  | .energyKwh => (accumulator + m.rate .energyKwh * dtHours, accumulator + m.rate .energyKwh * dtHours)
  | .waterM3 => (accumulator + m.rate .waterM3 * dtHours, accumulator + m.rate .waterM3 * dtHours)
  | .pressurePa => (clamp (250 * m.demand + noise (draw 0) 8) 0 400, accumulator)
  | .illuminanceLux =>
    (clamp (if 0.05 < m.occ then 480 + noise (draw 0) 40 else 40 + noise (draw 0) 15) 0 1200, accumulator)

/-! ## Faults -/

inductive FaultKind | drift | flatline | spike | offline
deriving DecidableEq

structure Fault where
  kind : FaultKind
  magnitude : ℚ
  startedAt : ℤ
deriving DecidableEq

def HOUR_MS : ℚ := 3600000

def applyFault (value : ℚ) (fault : Option Fault) (lastValue : Option ℚ) (now : ℤ) : ℚ :=
  match fault with
  | none => value
  | some f =>
    match f.kind with
    | .drift => value + f.magnitude * ((now - f.startedAt : ℤ) / HOUR_MS)
    | .flatline => lastValue.getD value
    | .spike => value * f.magnitude
    | .offline => value

/-! ## The rate of a counter -/

theorem le_clamp {v lo hi : ℚ} (h : lo ≤ hi) : lo ≤ clamp v lo hi := le_min h (le_max_left lo v)

theorem clamp_le (v lo hi : ℚ) : clamp v lo hi ≤ hi := min_le_left hi _

theorem Moment.le_demand (m : Moment) : 0.15 ≤ m.demand := le_clamp (by norm_num)

theorem Moment.demand_le (m : Moment) : m.demand ≤ 1 := clamp_le _ _ _

/-- The bounds of what a counter gains in an hour; other metrics are not counters. -/
def slowest : MetricType → ℚ
  | .energyKwh => 219
  | .waterM3 => 0.64
  | _ => 0

def fastest : MetricType → ℚ
  | .energyKwh => 440
  | .waterM3 => 2
  | _ => 0

theorem Moment.slowest_le_rate (m : Moment) (metric : MetricType) : slowest metric ≤ m.rate metric := by
  have hdemand := m.le_demand
  cases metric
  case energyKwh => show (219 : ℚ) ≤ 180 + 260 * m.demand; norm_num at hdemand ⊢; linarith
  case waterM3 => show (0.64 : ℚ) ≤ 0.4 + 1.6 * m.demand; norm_num at hdemand ⊢; linarith
  all_goals exact le_rfl

theorem Moment.rate_le_fastest (m : Moment) (metric : MetricType) : m.rate metric ≤ fastest metric := by
  have hdemand := m.demand_le
  cases metric
  case energyKwh => show 180 + 260 * m.demand ≤ (440 : ℚ); linarith
  case waterM3 => show 0.4 + 1.6 * m.demand ≤ (2 : ℚ); norm_num at hdemand ⊢; linarith
  all_goals exact le_rfl

/-- A counter gains what its rate makes of the time. -/
theorem generate_accumulator (lib : Library) (m : Moment) (metric : MetricType) (accumulator dtHours : ℚ)
    (draw : ℕ → ℚ) :
    (generate lib m metric accumulator dtHours draw).2 = accumulator + m.rate metric * dtHours := by
  cases metric
  case energyKwh => rfl
  case waterM3 => rfl
  all_goals simp [generate, Moment.rate]

/-- The metrics whose value is a counter. -/
def counts : MetricType → Bool
  | .energyKwh => true
  | .waterM3 => true
  | _ => false

theorem generate_value (lib : Library) (m : Moment) {metric : MetricType} (hcounts : counts metric = true)
    (accumulator dtHours : ℚ) (draw : ℕ → ℚ) :
    (generate lib m metric accumulator dtHours draw).1 = (generate lib m metric accumulator dtHours draw).2 := by
  cases metric
  case energyKwh => rfl
  case waterM3 => rfl
  all_goals cases hcounts

end DTwin.Device
