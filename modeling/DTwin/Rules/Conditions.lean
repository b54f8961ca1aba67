import DTwin.Types.Telemetry
import Mathlib.Algebra.BigOperators.Group.List.Basic

/-!
# DTwin.Rules.Conditions — is this rule breaching right now?

`apps/ingest/src/rules/conditions.ts` and the rule rows of migration `003_alerting.sql`: the state the
engine keeps for a sensor, the quality gate and the seven predicates.  A rule row carries the `CHECK`s
of its table.
-/

namespace DTwin.Rules

inductive AlertCondition
  | thresholdAbove | thresholdBelow | rateOfChange | deviationFromSetpoint | flatline | noData
  | outOfRange
deriving DecidableEq, Repr

/-- A row of `alert_rules` (`name`, `severity` and `notify` shape the message only). -/
structure AlertRuleRow where
  id : Uuid
  tenantId : Uuid
  buildingId : Option Uuid
  floorId : Option Uuid
  zoneId : Option Uuid
  equipmentId : Option Uuid
  sensorId : Option Uuid
  metric : Option MetricType
  condition : AlertCondition
  threshold : Option ℚ
  windowS : Option ℤ
  consecutiveBreaches : ℕ
  cooldownS : ℤ
  window_ck : ∀ w ∈ windowS, 0 < w
  breaches_ck : 1 ≤ consecutiveBreaches
  cooldown_ck : 0 ≤ cooldownS
  threshold_present : condition ∈ [.flatline, .noData, .outOfRange] ∨ threshold.isSome = true
  window_present : condition ∉ [.rateOfChange, .flatline, .noData] ∨ windowS.isSome = true

/-- A sensor of the registry, with the columns rules and readings are matched on. -/
structure RegisteredSensor where
  id : Uuid
  tenantId : Uuid
  metric : MetricType
  equipmentId : Option Uuid
  zoneId : Option Uuid
  floorId : Option Uuid
  buildingId : Option Uuid
deriving DecidableEq

/-- A retained sample. -/
structure Sample where
  ts : ℤ
  value : ℚ
deriving DecidableEq

structure SensorState where
  lastValue : ℚ
  lastTs : ℤ
  lastChangedAt : ℤ
  lastQuality : Quality
  history : Option (List Sample)
deriving DecidableEq

structure EvalContext where
  now : ℤ
  setpoint : Option ℚ
  startedAt : ℤ

structure Verdict where
  breaching : Bool
  value : Option ℚ
deriving DecidableEq

/-- Value-based conditions ignore readings the quality gate has flagged. -/
def isEvaluable (rule : AlertRuleRow) : Option SensorState → Bool
  | none => rule.condition == .noData
  | some state => rule.condition == .outOfRange || state.lastQuality == .good

/-! ## The slope -/

/-- The samples of the trailing window. -/
def windowSamples (history : List Sample) (now windowS : ℤ) : List Sample :=
  history.filter fun h => decide (now - h.ts ≤ windowS * 1000)

def meanTs (samples : List Sample) : ℚ :=
  (samples.map fun h => (h.ts : ℚ)).sum / samples.length

def meanValue (samples : List Sample) : ℚ := (samples.map (·.value)).sum / samples.length

/-- Least-squares slope of the samples, per millisecond; `none` when they share one timestamp. -/
def regression (samples : List Sample) : Option ℚ :=
  let num := (samples.map fun h => (h.ts - meanTs samples) * (h.value - meanValue samples)).sum
  let den := (samples.map fun h => (h.ts - meanTs samples) * (h.ts - meanTs samples)).sum
  if den = 0 then none else some (num / den)

/-- Least-squares slope in units per hour over the trailing window; `none` until three samples span at
least half of it. -/
def slopePerHour (history : List Sample) (now windowS : ℤ) : Option ℚ :=
  match windowSamples history now windowS with
  | first :: second :: third :: rest =>
    let samples := first :: second :: third :: rest
    let span := (samples.getLast (by simp [samples])).ts - first.ts
    if span * 2 < windowS * 1000 then none else (regression samples).map (· * 3600000)
  | _ => none

/-! ## The predicates -/

/-- The window of a rule in milliseconds, 0 when it has none. -/
def AlertRuleRow.windowMs (rule : AlertRuleRow) : ℤ := rule.windowS.getD 0 * 1000

def evaluate (rule : AlertRuleRow) (state : Option SensorState) (ctx : EvalContext) : Verdict :=
  match rule.condition with
  | .noData =>
    -- before the first reading, silence is measured from the engine's start
    ⟨ctx.now - (state.map (·.lastTs)).getD ctx.startedAt > rule.windowMs, none⟩
  | .flatline =>
    match state with
    | none => ⟨false, none⟩
    | some s => ⟨ctx.now - s.lastChangedAt > rule.windowMs, some s.lastValue⟩
  | .outOfRange =>
    match state with
    | none => ⟨false, none⟩
    | some s => ⟨s.lastQuality == .outOfRange, some s.lastValue⟩
  | .thresholdAbove =>
    match state, rule.threshold with
    | some s, some threshold => ⟨s.lastValue > threshold, some s.lastValue⟩
    | _, _ => ⟨false, none⟩
  | .thresholdBelow =>
    match state, rule.threshold with
    | some s, some threshold => ⟨s.lastValue < threshold, some s.lastValue⟩
    | _, _ => ⟨false, none⟩
  | .deviationFromSetpoint =>
    match state, rule.threshold, ctx.setpoint with
    | some s, some threshold, some setpoint =>
      ⟨|s.lastValue - setpoint| > threshold, some s.lastValue⟩
    | _, _, _ => ⟨false, state.map (·.lastValue)⟩
  | .rateOfChange =>
    match state, state.bind (·.history), rule.threshold, rule.windowS with
    | some s, some history, some threshold, some windowS =>
      match slopePerHour history ctx.now windowS with
      | none => ⟨false, some s.lastValue⟩
      | some slope => ⟨|slope| > threshold, some slope⟩
    | _, _, _, _ => ⟨false, state.map (·.lastValue)⟩

/-- Changes below this are quantisation. -/
def flatlineEpsilon : ℚ := 1 / 10 ^ 6

end DTwin.Rules
