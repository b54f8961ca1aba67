import DTwin.Control.Envelope
import DTwin.Lib.Latest
import DTwin.Lib.Table
import Mathlib.Data.List.Sort
import Mathlib.Data.List.MinMax

/-!
# DTwin.Control.Store — the statements of supervisory control

`apps/ingest/src/control/store.ts` over the tables of migration 017.  A statement is a function of
the table it reads and writes, the transaction's `now()` and the tenant the transaction is scoped to
(row-level security is the `tenantId` conjunct of each predicate).  Each `withTenant` transaction is
one function: it is atomic, and `now()` is its start.

`World` holds the rows that control reads and does not write.  The joined display columns of
`COMMAND_COLUMNS` (zone and user names) are left out.
-/

namespace DTwin.Control

open Table Latest

/-! ## Rows control only reads -/

structure UserRow where
  id : Uuid
  isActive : Bool

structure MemberRow where
  tenantId : Uuid
  userId : Uuid
  role : TenantRole

/-- `zones` with the setpoint of its thermal profile, `none` when it has no profile. -/
structure ZoneRow where
  id : Uuid
  tenantId : Uuid
  setpointTempC : Option ℚ

/-- `equipment_zone_service` with the equipment it names. -/
structure ServiceRow where
  tenantId : Uuid
  zoneId : Uuid
  equipment : ServingEquipment

structure SensorRow where
  id : Uuid
  tenantId : Uuid
  zoneId : Option Uuid
  metric : MetricType
  isActive : Bool
  sampleIntervalS : ℤ
deriving DecidableEq

structure TelemetryRow (ν : Type := ℚ) where
  tenantId : Uuid
  sensorId : Uuid
  time : ℤ
  value : ν
  quality : Quality
deriving DecidableEq

structure World where
  users : List UserRow
  members : List MemberRow
  settings : Uuid → Option ControlSettings
  zones : List ZoneRow
  services : List ServiceRow
  sensors : List SensorRow
  telemetry : List TelemetryRow

/-- The acting user's role in this tenant (`memberRole` of service.ts). -/
def World.memberRole (w : World) (tenantId userId : Uuid) : Option TenantRole :=
  (w.members.find? fun m => m.tenantId == tenantId && m.userId == userId &&
    w.users.any fun u => u.id == m.userId && u.isActive).map (·.role)

/-- The tenant's envelope; a missing row is created with the column defaults, so it reads as off. -/
def World.getSettings (w : World) (tenantId : Uuid) : ControlSettings :=
  (w.settings tenantId).getD .default

/-! ## Zone context -/

structure ZoneControlContext where
  baselineTempC : Option ℚ
  activeOverrideTempC : Option ℚ
  equipment : List ServingEquipment
  feedback : Option ZoneFeedback
  lastCommandAt : Option ℤ
  commandInFlight : Bool
  zoneExists : Bool

/-- `INTERVAL '1 day'` -/
def oneDayMs : ℤ := 86400000

/-- The zone's active temperature points. -/
def World.temperaturePoints (w : World) (tenantId zoneId : Uuid) : List SensorRow :=
  w.sensors.filter fun s => s.tenantId == tenantId && s.zoneId == some zoneId &&
    s.metric == .temperatureC && s.isActive

/-- `point`: the one with the lowest id. -/
def World.point (w : World) (tenantId zoneId : Uuid) : Option SensorRow :=
  (w.temperaturePoints tenantId zoneId).argmin (·.id)

/-- `latest_reading`: the newest raw sample of a point within a day. -/
def World.latestReading (w : World) (tenantId sensorId : Uuid) (dbNow : ℤ) :
    Option TelemetryRow :=
  newest (·.time) <| w.telemetry.filter fun t =>
    t.tenantId == tenantId && t.sensorId == sensorId && decide (dbNow - oneDayMs < t.time)

/-- An override in force at `dbNow`. -/
def inForce (tenantId : Uuid) (dbNow : ℤ) (c : Command) : Bool :=
  c.tenantId == tenantId && c.state == .applied && decide (dbNow < c.effectiveUntil)

/-- The overrides in force on one zone. -/
def overrideCandidates (tenantId zoneId : Uuid) (dbNow : ℤ) (t : List Command) : List Command :=
  t.filter fun c => inForce tenantId dbNow c && c.zoneId == zoneId

/-- `override` of the zone-context query: the one that lasts longest. -/
def zoneOverride (tenantId zoneId : Uuid) (dbNow : ℤ) (t : List Command) : Option ℚ :=
  (newest (·.effectiveUntil) (overrideCandidates tenantId zoneId dbNow t)).map (·.setpointTempC)

def loadFeedback (w : World) (tenantId zoneId : Uuid) (dbNow : ℤ) : Option ZoneFeedback :=
  (w.point tenantId zoneId).bind fun p =>
    (w.latestReading tenantId p.id dbNow).map fun r =>
      -- `receivedAt` is taken to be the sample's own timestamp: the row does not say when it landed.
      { value := r.value, ts := r.time, receivedAt := r.time, quality := r.quality,
        sampleIntervalS := p.sampleIntervalS }

def loadZoneContext (w : World) (t : List Command) (tenantId zoneId : Uuid) (dbNow : ℤ) :
    ZoneControlContext :=
  let zone := w.zones.find? fun z => z.id == zoneId && z.tenantId == tenantId
  let recent := t.filter fun c => c.tenantId == tenantId && c.zoneId == zoneId
  { zoneExists := zone.isSome
    baselineTempC := zone.bind (·.setpointTempC)
    activeOverrideTempC := zoneOverride tenantId zoneId dbNow t
    equipment := (w.services.filter fun s => s.tenantId == tenantId && s.zoneId == zoneId).map
      (·.equipment)
    feedback := loadFeedback w tenantId zoneId dbNow
    lastCommandAt := (recent.map (·.requestedAt)).max?
    commandInFlight := recent.any (·.isLive) }

/-! ## Statements on `control_commands` -/

structure NewCommand where
  tenantId : Uuid
  zoneId : Uuid
  setpointTempC : ℚ
  previousTempC : ℚ
  reason : String
  requestedBy : Uuid
  expiresAt : ℤ
  effectiveUntil : ℤ

/-- The errors an `INSERT` can end in; `unique_violation` is caught and is not one of them. -/
inductive DbError
  | characterNotInRepertoire
  | checkViolation (constraint : String)
  | foreignKeyViolation (constraint : String)
deriving DecidableEq

/-- The row the `INSERT` would write, when it passes the table's `CHECK`s. -/
def NewCommand.row (input : NewCommand) (id : Uuid) (now : ℤ)
    (hp : -50 < input.setpointTempC ∧ input.setpointTempC < 60)
    (hw : input.expiresAt < input.effectiveUntil) : Command where
  id := id
  tenantId := input.tenantId
  zoneId := input.zoneId
  setpointTempC := input.setpointTempC
  previousTempC := some input.previousTempC
  state := .pending
  reason := input.reason
  requestedBy := input.requestedBy
  requestedAt := now
  expiresAt := input.expiresAt
  effectiveUntil := input.effectiveUntil
  claimedAt := none
  claimedBy := none
  attempts := 0
  appliedAt := none
  settledAt := none
  outcomeDetail := none
  window_ck := hw
  plausible_ck := hp

/-- A row that already takes the new one's place in a unique index: its id, or its zone. -/
def NewCommand.conflicts (input : NewCommand) (id : Uuid) (c : Command) : Bool :=
  c.id == id || (c.isLive && c.tenantId == input.tenantId && c.zoneId == input.zoneId)

/-- Queue a command: `ok none` when a unique index refuses it, `ok (some c)` when `c` is inserted.
PostgreSQL checks the text first, then the `CHECK`s, then the indexes, then the foreign keys. -/
def insertCommand (w : World) (input : NewCommand) (id : Uuid) (now : ℤ) (t : List Command) :
    Except DbError (Option Command) :=
  if input.reason.toList.contains (Char.ofNat 0) then .error .characterNotInRepertoire
  else if hp : -50 < input.setpointTempC ∧ input.setpointTempC < 60 then
    if hw : input.expiresAt < input.effectiveUntil then
      if t.any (input.conflicts id) then .ok none
      else if !w.users.any (·.id == input.requestedBy) then
        .error (.foreignKeyViolation "control_commands_requested_by_fkey")
      else if !w.zones.any fun z => z.id == input.zoneId && z.tenantId == input.tenantId then
        .error (.foreignKeyViolation "control_commands_zone_fk")
      else .ok (some (input.row id now hp hw))
    else .error (.checkViolation "control_commands_window_ck")
  else .error (.checkViolation "control_commands_plausible_ck")

/-- Retired by `expireStale`. -/
def staleAt (tenantId : Uuid) (now : ℤ) (c : Command) : Bool :=
  c.tenantId == tenantId && c.state == .pending && decide (c.expiresAt ≤ now)

def expiredRow (now : ℤ) (c : Command) : Command :=
  { c with
    state := .expired, settledAt := some now
    outcomeDetail := some "not collected before expires_at" }

/-- Retire commands nobody collected in time. -/
def expireStale (tenantId : Uuid) (now : ℤ) (t : List Command) : List Command :=
  updateWhere (staleAt tenantId now) (expiredRow now) t

/-- Collectable at `now`; rows another transaction holds locked are skipped. -/
def claimable (tenantId : Uuid) (now : ℤ) (locked : List Uuid) (c : Command) : Bool :=
  c.tenantId == tenantId && c.state == .pending && decide (now < c.expiresAt) &&
    !locked.contains c.id

/-- `SELECT … ORDER BY requested_at FOR UPDATE SKIP LOCKED LIMIT`. -/
def claimIds (tenantId : Uuid) (limit : ℕ) (now : ℤ) (locked : List Uuid) (t : List Command) :
    List Uuid :=
  (((t.filter (claimable tenantId now locked)).insertionSort
    fun a b => a.requestedAt ≤ b.requestedAt).take limit).map (·.id)

/-- The rows with one of these ids. -/
def isOneOf (tenantId : Uuid) (ids : List Uuid) (c : Command) : Bool :=
  c.tenantId == tenantId && ids.contains c.id

def claimedRow (gateway : String) (now : ℤ) (c : Command) : Command :=
  { c with
    state := .dispatched, claimedAt := some now, claimedBy := some gateway
    attempts := c.attempts + 1 }

/-- Claim commands for one gateway: the new table and the claimed rows. -/
def claimCommands (tenantId : Uuid) (gateway : String) (limit : ℕ) (now : ℤ) (locked : List Uuid)
    (t : List Command) : List Command × List Command :=
  let ids := claimIds tenantId limit now locked t
  let t' := updateWhere (isOneOf tenantId ids) (claimedRow gateway now) t
  (t', t'.filter (isOneOf tenantId ids))

/-- The row with this id, in this state. -/
def isRow (tenantId id : Uuid) (state : ControlCommandState) (c : Command) : Bool :=
  c.tenantId == tenantId && c.id == id && c.state == state

def releasedRow (detail : String) (c : Command) : Command :=
  { c with state := .pending, claimedAt := none, claimedBy := none, outcomeDetail := some detail }

/-- Hand a claimed command back, so another poll can pick it up. -/
def releaseCommand (tenantId id : Uuid) (detail : String) (t : List Command) : List Command :=
  updateWhere (isRow tenantId id .dispatched) (releasedRow detail) t

inductive Outcome | applied | failed
deriving DecidableEq

def Outcome.state : Outcome → ControlCommandState
  | applied => .applied
  | failed => .failed

def settledRow (outcome : Outcome) (detail : Option String) (now : ℤ) (c : Command) : Command :=
  { c with
    state := outcome.state, settledAt := some now
    appliedAt := if outcome = .applied then some now else none
    outcomeDetail := detail }

/-- The overrides an application of `id` on its zone replaces. -/
def replacedBy (tenantId zoneId id : Uuid) (now : ℤ) (c : Command) : Bool :=
  inForce tenantId now c && c.zoneId == zoneId && c.id != id

def supersededRow (now : ℤ) (c : Command) : Command :=
  { c with
    state := .superseded, settledAt := some now
    outcomeDetail := some "replaced by a later override" }

/-- Record what the gateway did; applying supersedes whatever override was in force on the zone. -/
def settleCommand (tenantId id : Uuid) (outcome : Outcome) (detail : Option String) (now : ℤ)
    (t : List Command) : List Command × Option Command :=
  match t.find? (isRow tenantId id .dispatched) with
  | none => (t, none)
  | some row =>
    let t₁ := updateWhere (isRow tenantId id .dispatched) (settledRow outcome detail now) t
    let t₂ := match outcome with
      | .applied => updateWhere (replacedBy tenantId row.zoneId id now) (supersededRow now) t₁
      | .failed => t₁
    (t₂, t₂.find? fun c => c.tenantId == tenantId && c.id == id)

/-- Withdrawn by `cancelCommand`. -/
def cancellable (tenantId id : Uuid) (c : Command) : Bool :=
  c.tenantId == tenantId && c.id == id && c.isLive

def cancelledRow (now : ℤ) (c : Command) : Command :=
  { c with
    state := .cancelled, settledAt := some now
    outcomeDetail := some "cancelled before it was applied" }

def cancelCommand (tenantId id : Uuid) (now : ℤ) (t : List Command) :
    List Command × Option Command :=
  let t' := updateWhere (cancellable tenantId id) (cancelledRow now) t
  (t', if t.any (cancellable tenantId id) then
      t'.find? fun c => c.tenantId == tenantId && c.id == id
    else none)

structure ActiveOverride where
  zoneId : Uuid
  setpointTempC : ℚ
  effectiveUntil : ℤ
deriving DecidableEq

/-- Overrides in force right now, for every zone of a tenant (`DISTINCT ON (zone_id)`). -/
def activeOverrides (tenantId : Uuid) (now : ℤ) (t : List Command) : List ActiveOverride :=
  let zones := ((t.filter (inForce tenantId now)).map (·.zoneId)).dedup.insertionSort (· ≤ ·)
  zones.filterMap fun z =>
    (newest (·.effectiveUntil) (overrideCandidates tenantId z now t)).map fun c =>
      ⟨c.zoneId, c.setpointTempC, c.effectiveUntil⟩

end DTwin.Control
