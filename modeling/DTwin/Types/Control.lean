import DTwin.Lib.Text
import DTwin.Types.Telemetry

/-!
# DTwin.Types.Control — the contracts of supervisory control

`packages/types/src/control.ts` and the tables of migration `017_supervisory_control.sql`.  What a
schema or a `CHECK` promises is a field of the structure, so a value that breaks it cannot be built:
`SetpointCommandRequest` is a request the schema has parsed, `ControlSettings` a row that passes
`control_settings_sane_ck`, `Command` a row that passes both `CHECK`s of `control_commands`.
-/

namespace DTwin

inductive ControlCommandState
  | pending | dispatched | applied | failed | expired | cancelled | superseded
deriving DecidableEq, Repr

inductive TenantRole | owner | admin | operator | viewer
deriving DecidableEq, Repr

def TenantRole.name : TenantRole → String
  | owner => "owner"
  | admin => "admin"
  | operator => "operator"
  | viewer => "viewer"

def controlRoles : List TenantRole := [.owner, .admin, .operator]

def mayCommand (role : TenantRole) : Bool := controlRoles.contains role

inductive ControlRefusal
  | controlDisabled | forbiddenRole | equipmentUnavailable | feedbackUnusable | outsideEnvelope
  | stepTooLarge | noChange | commandInFlight | tooSoon | durationTooLong | noBaseline
deriving DecidableEq, Repr

def ControlRefusal.name : ControlRefusal → String
  | controlDisabled => "control_disabled"
  | forbiddenRole => "forbidden_role"
  | equipmentUnavailable => "equipment_unavailable"
  | feedbackUnusable => "feedback_unusable"
  | outsideEnvelope => "outside_envelope"
  | stepTooLarge => "step_too_large"
  | noChange => "no_change"
  | commandInFlight => "command_in_flight"
  | tooSoon => "too_soon"
  | durationTooLong => "duration_too_long"
  | noBaseline => "no_baseline"

/-- A request `SetpointCommandRequest` has parsed. -/
structure SetpointCommandRequest where
  zoneId : Uuid
  setpointTempC : ℚ
  reason : String
  durationS : Option ℤ
  dryRun : Option Bool
  setpoint_ck : -50 ≤ setpointTempC ∧ setpointTempC ≤ 60
  reason_ck : 3 ≤ Text.utf16Length reason ∧ Text.utf16Length reason ≤ 500
  duration_ck : ∀ d ∈ durationS, 0 < d ∧ d ≤ 86400

/-- A row of `control_settings`. -/
structure ControlSettings where
  enabled : Bool
  maxDeviationK : ℚ
  maxStepK : ℚ
  minIntervalS : ℤ
  defaultDurationS : ℤ
  maxDurationS : ℤ
  commandTtlS : ℤ
  sane_ck : 0 < maxDeviationK ∧ 0 < maxStepK ∧ 0 ≤ minIntervalS ∧ 0 < defaultDurationS ∧
    defaultDurationS ≤ maxDurationS ∧ 0 < commandTtlS

/-- The column defaults: what a tenant that never configured control has. -/
def ControlSettings.default : ControlSettings where
  enabled := false
  maxDeviationK := 3
  maxStepK := 2
  minIntervalS := 900
  defaultDurationS := 3600
  maxDurationS := 43200
  commandTtlS := 300
  sane_ck := by norm_num

/-- A row of `control_commands`. -/
structure Command where
  id : Uuid
  tenantId : Uuid
  zoneId : Uuid
  setpointTempC : ℚ
  previousTempC : Option ℚ
  state : ControlCommandState
  reason : String
  requestedBy : Uuid
  requestedAt : ℤ
  expiresAt : ℤ
  effectiveUntil : ℤ
  claimedAt : Option ℤ
  claimedBy : Option String
  attempts : ℕ
  appliedAt : Option ℤ
  settledAt : Option ℤ
  outcomeDetail : Option String
  window_ck : expiresAt < effectiveUntil
  plausible_ck : -50 < setpointTempC ∧ setpointTempC < 60
deriving DecidableEq

/-- The predicate of `control_commands_one_live_idx`. -/
def Command.isLive (c : Command) : Bool := c.state = .pending || c.state = .dispatched

theorem Command.isLive_iff {c : Command} :
    c.isLive = true ↔ c.state = .pending ∨ c.state = .dispatched := by
  simp [Command.isLive]

end DTwin
