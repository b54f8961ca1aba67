import DTwin.Control.Store
import DTwin.Lib.Machine
import Mathlib.Logic.Function.Basic

/-!
# DTwin.Control.Service — issuing and dispatching commands

`apps/ingest/src/control/service.ts`.  First the two calls as functions, each with the world it is
made in (`issueCommand`, `claimForGateway`); then `control`, the machine in which any number of calls
interleave transaction by transaction, the world is edited between them, and a gateway may stop after
any of its transactions.
-/

namespace DTwin.Control

/-! ## The envelope's two contexts -/

def issueContext (settings : ControlSettings) (role : TenantRole) (now : ℤ)
    (zone : ZoneControlContext) : EnvelopeContext where
  settings := settings
  role := role
  baselineTempC := zone.baselineTempC
  activeOverrideTempC := zone.activeOverrideTempC
  equipment := zone.equipment
  feedback := zone.feedback
  lastCommandAt := zone.lastCommandAt
  commandInFlight := zone.commandInFlight
  now := now

/-- At dispatch the command's own existence must not be the reason it is refused. -/
def dispatchContext (settings : ControlSettings) (role : TenantRole) (now : ℤ)
    (zone : ZoneControlContext) : EnvelopeContext :=
  { issueContext settings role now zone with commandInFlight := false, lastCommandAt := none }

/-! ## Issuing -/

inductive IssueRefusal
  | control (refusal : ControlRefusal)
  | unknownZone
deriving DecidableEq

inductive IssueResult
  | issued (command : Command)
  | dryRun (verdict : Accepted)
  | refused (refusal : IssueRefusal) (message : String)
deriving DecidableEq

/-- The row `issueCommand` queues for an accepted request. -/
def newCommand (tenantId userId : Uuid) (request : SetpointCommandRequest) (verdict : Accepted) :
    NewCommand where
  tenantId := tenantId
  zoneId := request.zoneId
  setpointTempC := request.setpointTempC
  previousTempC := verdict.previousTempC
  reason := request.reason
  requestedBy := userId
  expiresAt := verdict.expiresAt
  effectiveUntil := verdict.effectiveUntil

def SetpointCommandRequest.envelope (request : SetpointCommandRequest) : EnvelopeRequest :=
  ⟨request.setpointTempC, request.durationS⟩

/-- `now` is the service's clock, `dbNow` the database's, `id` the id the database would generate. -/
def issueCommand (w : World) (t : List Command) (tenantId userId : Uuid)
    (request : SetpointCommandRequest) (now dbNow : ℤ) (id : Uuid) : Except DbError IssueResult :=
  match w.memberRole tenantId userId with
  | none => .ok (.refused (.control .forbiddenRole) "this user may not issue commands")
  | some role =>
    let zone := loadZoneContext w t tenantId request.zoneId dbNow
    if !zone.zoneExists then .ok (.refused .unknownZone "unknown zone")
    else
      match evaluate (SetpointCommandRequest.envelope request)
          (issueContext (w.getSettings tenantId) role now zone) with
      | .error r => .ok (.refused (.control r.refusal) r.message)
      | .ok verdict =>
        if request.dryRun = some true then .ok (.dryRun verdict)
        else
          match insertCommand w (newCommand tenantId userId request verdict) id dbNow t with
          | .error e => .error e
          | .ok none =>
            .ok (.refused (.control .commandInFlight)
              "another command for this zone was accepted a moment ago")
          | .ok (some command) => .ok (.issued command)

/-! ## Dispatching -/

/-- The re-evaluation of one claimed command. -/
def recheck (w : World) (t : List Command) (settings : ControlSettings) (tenantId : Uuid)
    (command : Command) (now dbNow : ℤ) : EnvelopeVerdict :=
  evaluate ⟨command.setpointTempC, none⟩
    (dispatchContext settings ((w.memberRole tenantId command.requestedBy).getD .viewer) now
      (loadZoneContext w t tenantId command.zoneId dbNow))

/-- The detail a withheld command is released with. -/
def withheldDetail (r : Refused) : String :=
  s!"withheld at dispatch: {r.refusal.name} — {r.message}"

structure ClaimResult where
  commands : List Command
  withheld : ℕ

/-- What the clocks say during one call: at each transaction, and at each `Date.now()`. -/
structure Clocks where
  expireAt : ℤ
  claimAt : ℤ
  loadAt : Command → ℤ
  now : Command → ℤ

/-- One turn of the loop over the claimed commands. -/
def recheckStep (w : World) (settings : ControlSettings) (tenantId : Uuid) (k : Clocks)
    (acc : List Command × ClaimResult) (command : Command) : List Command × ClaimResult :=
  match recheck w acc.1 settings tenantId command (k.now command) (k.loadAt command) with
  | .ok _ => (acc.1, { acc.2 with commands := acc.2.commands ++ [command] })
  | .error r =>
    (releaseCommand tenantId command.id (withheldDetail r) acc.1,
      { acc.2 with withheld := acc.2.withheld + 1 })

/-- Hand a gateway its work, re-checking the envelope for each command, in the world `w`. -/
def claimForGateway (w : World) (t : List Command) (tenantId : Uuid) (gateway : String)
    (limit : ℕ) (locked : List Uuid) (k : Clocks) : List Command × ClaimResult :=
  let t₁ := expireStale tenantId k.expireAt t
  let settings := w.getSettings tenantId
  if !settings.enabled then (t₁, ⟨[], 0⟩)
  else
    let claimed := claimCommands tenantId gateway limit k.claimAt locked t₁
    claimed.2.foldl (recheckStep w settings tenantId k) (claimed.1, ⟨[], 0⟩)

/-! ## The machine -/

/-- The loop of a `claimForGateway` in progress. -/
structure Loop where
  tenantId : Uuid
  settings : ControlSettings
  todo : List Command
  out : List Command
  withheld : ℕ

/-- Where a `claimForGateway` stands between its transactions. -/
inductive Call
  | idle
  | expired (tenantId : Uuid) (gateway : String) (limit : ℕ)
  | enabled (tenantId : Uuid) (gateway : String) (limit : ℕ) (settings : ControlSettings)
  | looping (l : Loop)
  | releasing (command : Command) (detail : String) (l : Loop)

/-- The commands a call has claimed and not yet handed over or put back. -/
def Call.held : Call → List Uuid
  | looping l => l.todo.map (·.id) ++ l.out.map (·.id)
  | releasing command _ l => command.id :: (l.todo.map (·.id) ++ l.out.map (·.id))
  | _ => []

@[simp] theorem Call.held_idle : Call.idle.held = [] := rfl

@[simp] theorem Call.held_expired (tenantId : Uuid) (gateway : String) (limit : ℕ) :
    (Call.expired tenantId gateway limit).held = [] := rfl

@[simp] theorem Call.held_enabled (tenantId : Uuid) (gateway : String) (limit : ℕ)
    (settings : ControlSettings) : (Call.enabled tenantId gateway limit settings).held = [] := rfl

@[simp] theorem Call.held_looping (l : Loop) :
    (Call.looping l).held = l.todo.map (·.id) ++ l.out.map (·.id) := rfl

@[simp] theorem Call.held_releasing (command : Command) (detail : String) (l : Loop) :
    (Call.releasing command detail l).held =
      command.id :: (l.todo.map (·.id) ++ l.out.map (·.id)) := rfl

structure Sys where
  clock : ℤ
  world : World
  commands : List Command
  calls : ℕ → Call

/-- A step.  `now` is the `now()` of its transaction, which may have started before the clock's
present value; `appNow` is the service's own clock. -/
inductive Act
  | tick (clock : ℤ)
  | edit (world : World)
  | insert (input : NewCommand) (id : Uuid) (now : ℤ)
  | start (i : ℕ) (tenantId : Uuid) (gateway : String) (limit : ℕ) (now : ℤ)
  | readSettings (i : ℕ)
  | claim (i : ℕ) (locked : List Uuid) (now : ℤ)
  | judge (i : ℕ) (appNow now : ℤ)
  | release (i : ℕ)
  | hand (i : ℕ)
  | crash (i : ℕ)
  | report (tenantId id : Uuid) (outcome : Outcome) (detail : Option String) (now : ℤ)
  | cancel (tenantId id : Uuid) (now : ℤ)

/-- What a step shows. -/
inductive Obs
  /-- a `claimForGateway` has retired what was stale at `now` -/
  | ran (tenantId : Uuid) (now : ℤ)
  /-- a statement took this command out of the live states -/
  | settled (id : Uuid)
  /-- a `claimForGateway` has returned these commands -/
  | returned (i : ℕ) (ids : List Uuid) (withheld : ℕ)
  /-- `reportResult` has answered with this command -/
  | reported (id : Uuid) (outcome : Outcome)
  /-- an `INSERT` has ended in a database error -/
  | failed (e : DbError)
deriving DecidableEq

def Sys.setCall (s : Sys) (i : ℕ) (c : Call) : Sys :=
  { s with calls := Function.update s.calls i c }

/-- The rows a statement takes out of the live states. -/
def settledObs (p : Command → Bool) (t : List Command) : List Obs :=
  (t.filter p).map fun c => .settled c.id

/-- One transaction of one call, or a change of the surroundings.  The three reads of a
re-evaluation are one step: the world may be edited before and after it, so no order of them is
lost.  `insert` stands for every `issueCommand`: its only write is this statement. -/
def step (s : Sys) : Act → Option (Sys × List Obs)
  | .tick clock => if s.clock ≤ clock then some ({ s with clock := clock }, []) else none
  | .edit world => some ({ s with world := world }, [])
  | .insert input id now =>
    if now ≤ s.clock then
      match insertCommand s.world input id now s.commands with
      | .error e => some (s, [.failed e])
      | .ok none => some (s, [])
      | .ok (some c) => some ({ s with commands := s.commands ++ [c] }, [])
    else none
  | .start i tenantId gateway limit now =>
    match s.calls i with
    | .idle =>
      if now ≤ s.clock then
        some ({ s.setCall i (.expired tenantId gateway limit) with
            commands := expireStale tenantId now s.commands },
          .ran tenantId now :: settledObs (staleAt tenantId now) s.commands)
      else none
    | _ => none
  | .readSettings i =>
    match s.calls i with
    | .expired tenantId gateway limit =>
      let settings := s.world.getSettings tenantId
      if settings.enabled then some (s.setCall i (.enabled tenantId gateway limit settings), [])
      else some (s.setCall i .idle, [.returned i [] 0])
    | _ => none
  | .claim i locked now =>
    match s.calls i with
    | .enabled tenantId gateway limit settings =>
      if now ≤ s.clock then
        let claimed := claimCommands tenantId gateway limit now locked s.commands
        some ({ s.setCall i (.looping ⟨tenantId, settings, claimed.2, [], 0⟩) with
          commands := claimed.1 }, [])
      else none
    | _ => none
  | .judge i appNow now =>
    match s.calls i with
    | .looping ⟨tenantId, settings, command :: todo, out, withheld⟩ =>
      if now ≤ s.clock then
        match recheck s.world s.commands settings tenantId command appNow now with
        | .ok _ =>
          some (s.setCall i (.looping ⟨tenantId, settings, todo, out ++ [command], withheld⟩), [])
        | .error r =>
          some (s.setCall i
            (.releasing command (withheldDetail r) ⟨tenantId, settings, todo, out, withheld + 1⟩), [])
      else none
    | _ => none
  | .release i =>
    match s.calls i with
    | .releasing command detail l =>
      some ({ s.setCall i (.looping l) with
        commands := releaseCommand l.tenantId command.id detail s.commands }, [])
    | _ => none
  | .hand i =>
    match s.calls i with
    | .looping ⟨_, _, [], out, withheld⟩ =>
      some (s.setCall i .idle, [.returned i (out.map (·.id)) withheld])
    | _ => none
  | .crash i => some (s.setCall i .idle, [])
  | .report tenantId id outcome detail now =>
    if now ≤ s.clock then
      let r := settleCommand tenantId id outcome detail now s.commands
      some ({ s with commands := r.1 },
        settledObs (isRow tenantId id .dispatched) s.commands ++
          if r.2.isSome then [.reported id outcome] else [])
    else none
  | .cancel tenantId id now =>
    if now ≤ s.clock then
      some ({ s with commands := (cancelCommand tenantId id now s.commands).1 },
        settledObs (cancellable tenantId id) s.commands)
    else none

def control : Machine Sys Act Obs := ⟨step⟩

/-- Before the first command: any world, any clock, no call in progress. -/
def Sys.init (clock : ℤ) (world : World) : Sys := ⟨clock, world, [], fun _ => .idle⟩

end DTwin.Control
