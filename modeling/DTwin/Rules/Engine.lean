import DTwin.Rules.Conditions
import DTwin.Lib.Machine
import DTwin.Lib.Table
import Mathlib.Logic.Function.Basic

/-!
# DTwin.Rules.Engine — the alert rule engine

`apps/ingest/src/rules/{index,targets,store}.ts`.  First the engine's synchronous code as functions of its
state (`onReading`, `sweep`, `refresh`, `adopt`), then `alerting`, the machine in which these run in any
order and interleave with the awaits inside `#open` and `#close`: a started call awaits its
transaction, the transaction commits or fails in the database, and the call resumes.

Two points of the source the state keeps:

* an entry of `#targetState` is an object, which `#close` holds on to across its await; entries carry
  a `ref`, so that what it writes to an object no longer in the map is lost;
* `#inFlight` holds the keys with a call in progress: it is the domain of `tasks`.
-/

namespace DTwin.Rules

open Table

/-! ## Targets -/

/-- Identity of a target: its rule and its sensor. -/
abbrev Key := Uuid × Uuid

structure RuleTarget where
  rule : AlertRuleRow
  sensor : RegisteredSensor

def RuleTarget.key (t : RuleTarget) : Key := (t.rule.id, t.sensor.id)

/-- The sensors a rule watches. -/
def expandRule (rule : AlertRuleRow) (registry : List RegisteredSensor) : List RegisteredSensor :=
  registry.filter fun s =>
    if rule.metric.isSome && rule.metric != some s.metric then false
    else if s.tenantId != rule.tenantId then false
    else if rule.sensorId.isSome then some s.id == rule.sensorId
    else if rule.equipmentId.isSome then s.equipmentId == rule.equipmentId
    else if rule.zoneId.isSome then s.zoneId == rule.zoneId
    else if rule.floorId.isSome then s.floorId == rule.floorId
    else if rule.buildingId.isSome then s.buildingId == rule.buildingId
    else false

def expandAll (rules : List AlertRuleRow) (registry : List RegisteredSensor) : List RuleTarget :=
  rules.flatMap fun rule => (expandRule rule registry).map (RuleTarget.mk rule)

/-! ## State -/

/-- An object of `#targetState`. -/
structure TargetState where
  ref : ℕ
  breaches : ℕ
  clears : ℕ
  openAlertId : Option Uuid
  lastResolvedAt : ℤ

/-- The last Good setpoint reading of a zone. -/
structure LiveSetpoint where
  value : ℚ
  ts : ℤ
deriving DecidableEq

/-- How the transaction of `openAlert` ended, as the engine is told. -/
inductive OpenReply
  | inserted (id : Uuid)
  | held
  | failed

/-- How the transaction of `resolveAlert` ended, as the engine is told. -/
inductive CloseReply
  | done
  | failed

/-- A call of `#open` or `#close` in progress; without a reply it awaits its transaction. -/
inductive Task
  | opening (target : RuleTarget) (value : Option ℚ) (reply : Option OpenReply)
  | closing (target : RuleTarget) (ref : ℕ) (alertId : Uuid) (now : ℤ) (reply : Option CloseReply)

def Task.target : Task → RuleTarget
  | .opening target _ _ => target
  | .closing target _ _ _ _ => target

structure Engine where
  startedAt : ℤ
  targets : List RuleTarget
  needHistory : Uuid → Option ℤ
  profileSetpoints : Uuid → Option ℚ
  sensorState : Uuid → Option SensorState
  liveSetpoints : Uuid → Option LiveSetpoint
  targetState : Key → Option TargetState
  tasks : Key → Option Task
  nextRef : ℕ
  opened : ℕ
  resolved : ℕ
  suppressedByCooldown : ℕ

/-- The engine as it is constructed. -/
def Engine.new : Engine where
  startedAt := 0
  targets := []
  needHistory := fun _ => none
  profileSetpoints := fun _ => none
  sensorState := fun _ => none
  liveSetpoints := fun _ => none
  targetState := fun _ => none
  tasks := fun _ => none
  nextRef := 0
  opened := 0
  resolved := 0
  suppressedByCooldown := 0

/-! ## Readings -/

/-- Conditions answerable from the current value; the rest need the sweep. -/
def instantaneous : List AlertCondition :=
  [.thresholdAbove, .thresholdBelow, .outOfRange, .deviationFromSetpoint]

/-- Append a sample, then drop from the front what is older than the longest window. -/
def retain (windowMs : ℤ) (history : List Sample) (sample : Sample) : List Sample :=
  (history ++ [sample]).dropWhile fun h => decide (h.ts < sample.ts - windowMs)

/-- The sensor's state after a reading. -/
def nextState (windowMs : Option ℤ) (prev : Option SensorState) (reading : Reading) :
    SensorState where
  lastValue := reading.value
  lastTs := reading.ts
  lastChangedAt :=
    match prev with
    | none => reading.ts
    | some p => if |p.lastValue - reading.value| > flatlineEpsilon then reading.ts else p.lastChangedAt
  lastQuality := reading.quality
  history :=
    match windowMs with
    | none => prev.bind (·.history)
    | some w => some (retain w ((prev.bind (·.history)).getD []) ⟨reading.ts, reading.value⟩)

/-- A Good reading of a setpoint point becomes its zone's live setpoint. -/
def nextSetpoint (sensor : RegisteredSensor) (reading : Reading)
    (live : Uuid → Option LiveSetpoint) : Uuid → Option LiveSetpoint :=
  match sensor.zoneId with
  | some zoneId =>
    if sensor.metric = .setpointTempC ∧ reading.quality = .good then
      Function.update live zoneId (some ⟨reading.value, reading.ts⟩)
    else live
  | none => live

/-- The state of `onReading` before it evaluates anything. -/
def Engine.record (e : Engine) (sensor : RegisteredSensor) (reading : Reading) : Engine :=
  { e with
    sensorState := Function.update e.sensorState sensor.id
      (some (nextState (e.needHistory sensor.id) (e.sensorState sensor.id) reading))
    liveSetpoints := nextSetpoint sensor reading e.liveSetpoints }

/-! ## Evaluation -/

/-- How long a live setpoint reading stands in for the profile's designed value. -/
def setpointStaleMs : ℤ := 60 * 60 * 1000

/-- A live setpoint, while it is still trustworthy. -/
def LiveSetpoint.freshAt (now : ℤ) (held : LiveSetpoint) : Option ℚ :=
  if now - held.ts > setpointStaleMs then none else some held.value

/-- `#liveSetpointFor`: the answer, and the map without what it evicts. -/
def liveSetpointFor (live : Uuid → Option LiveSetpoint) (zoneId : Uuid) (now : ℤ) :
    Option ℚ × (Uuid → Option LiveSetpoint) :=
  match live zoneId with
  | none => (none, live)
  | some held =>
    match held.freshAt now with
    | none => (none, Function.update live zoneId none)
    | some value => (some value, live)

/-- The setpoint a sensor is compared with, and the map of live ones after asking for it. -/
def Engine.setpointFor (e : Engine) (sensor : RegisteredSensor) (now : ℤ) :
    Option ℚ × (Uuid → Option LiveSetpoint) :=
  match sensor.zoneId with
  | none => (none, e.liveSetpoints)
  | some zoneId =>
    let r := liveSetpointFor e.liveSetpoints zoneId now
    (r.1.or (e.profileSetpoints zoneId), r.2)

/-- What a target is judged to be; `none` when the gate refuses to evaluate it. -/
def Engine.verdict (e : Engine) (target : RuleTarget) (state : Option SensorState) (now : ℤ) :
    Option Verdict :=
  if isEvaluable target.rule state then
    some (evaluate target.rule state ⟨now, (e.setpointFor target.sensor now).1, e.startedAt⟩)
  else none

/-! ## Debounce -/

/-- The target's object, created when there is none. -/
def Engine.ensure (e : Engine) (key : Key) : Engine × TargetState :=
  match e.targetState key with
  | some ts => (e, ts)
  | none =>
    let ts : TargetState := ⟨e.nextRef, 0, 0, none, 0⟩
    ({ e with targetState := Function.update e.targetState key (some ts), nextRef := e.nextRef + 1 },
      ts)

/-- Write the target's object. -/
def Engine.put (e : Engine) (key : Key) (ts : TargetState) : Engine :=
  { e with targetState := Function.update e.targetState key (some ts) }

/-- `#open` up to its await. -/
def Engine.startOpen (e : Engine) (target : RuleTarget) (value : Option ℚ) : Engine :=
  match e.tasks target.key with
  | some _ => e
  | none =>
    { e with tasks := Function.update e.tasks target.key (some (.opening target value none)) }

/-- `#close` up to its await. -/
def Engine.startClose (e : Engine) (target : RuleTarget) (now : ℤ) : Engine :=
  match (e.targetState target.key).bind fun ts => ts.openAlertId.map fun id => (ts.ref, id) with
  | none => e
  | some (ref, alertId) =>
    match e.tasks target.key with
    | some _ => e
    | none =>
      { e with
        tasks := Function.update e.tasks target.key (some (.closing target ref alertId now none)) }

/-- The part of `#evaluateTarget` after the verdict. -/
def Engine.debounce (e : Engine) (target : RuleTarget) (v : Verdict) (now : ℤ) : Engine :=
  let (e, ts) := e.ensure target.key
  if v.breaching then
    let ts := { ts with clears := 0, breaches := ts.breaches + 1 }
    let e := e.put target.key ts
    if ts.openAlertId.isSome ∨ ts.breaches < target.rule.consecutiveBreaches then e
    else if now - ts.lastResolvedAt < target.rule.cooldownS * 1000 then
      { e with suppressedByCooldown := e.suppressedByCooldown + 1 }
    else e.startOpen target v.value
  else
    let ts := { ts with breaches := 0 }
    if ts.openAlertId.isNone then e.put target.key ts
    else
      let ts := { ts with clears := ts.clears + 1 }
      let e := e.put target.key ts
      if ts.clears < target.rule.consecutiveBreaches then e else e.startClose target now

/-- `#evaluateTarget` -/
def Engine.evaluateTarget (e : Engine) (target : RuleTarget) (state : Option SensorState)
    (now : ℤ) : Engine :=
  match e.verdict target state now with
  | none => e
  | some v =>
    { e with liveSetpoints := (e.setpointFor target.sensor now).2 }.debounce target v now

/-- Hot path: record the reading, then evaluate the instantaneous rules. -/
def Engine.onReading (e : Engine) (sensor : RegisteredSensor) (reading : Reading) (now : ℤ) :
    Engine :=
  let state := nextState (e.needHistory sensor.id) (e.sensorState sensor.id) reading
  (e.targets.filter fun t =>
      t.sensor.id == sensor.id && instantaneous.contains t.rule.condition).foldl
    (fun e t => e.evaluateTarget t (some state) now) (e.record sensor reading)

/-- Windowed conditions: nothing arrives to trigger these. -/
def Engine.sweep (e : Engine) (now : ℤ) : Engine :=
  (e.targets.filter fun t => !instantaneous.contains t.rule.condition).foldl
    (fun e t => e.evaluateTarget t (e.sensorState t.sensor.id) now) e

/-! ## Rules and adoption -/

/-- The longest window that needs a sensor's samples. -/
def needHistoryOf (targets : List RuleTarget) (sensorId : Uuid) : Option ℤ :=
  targets.foldl (fun need t =>
    match t.rule.windowS with
    | some w =>
      if t.sensor.id = sensorId ∧ t.rule.condition = .rateOfChange then
        some (max (need.getD 0) (w * 1000))
      else need
    | none => need) none

/-- `refresh` after its await: expand the loaded rules, forget targets that no longer exist. -/
def Engine.refresh (e : Engine) (rules : List AlertRuleRow) (registry : List RegisteredSensor) :
    Engine :=
  let targets := expandAll rules registry
  { e with
    targets := targets
    needHistory := needHistoryOf targets
    targetState := fun key =>
      (e.targetState key).filter fun ts =>
        (targets.map (·.key)).contains key || ts.openAlertId.isSome }

/-- Adopt one live alert. -/
def Engine.adoptOne (e : Engine) (live : Key × Uuid) : Engine :=
  { e with
    targetState := Function.update e.targetState live.1 (some ⟨e.nextRef, 0, 0, some live.2, 0⟩)
    nextRef := e.nextRef + 1 }

/-- Adopt the alerts `loadLiveAlerts` found. -/
def Engine.adopt (e : Engine) (live : List (Key × Uuid)) : Engine := live.foldl Engine.adoptOne e

/-! ## The alerts table -/

inductive AlertState | open | acknowledged | resolved
deriving DecidableEq

/-- A row of `alerts` on a sensor; `key` is what its unique index covers. -/
structure AlertRow where
  id : Uuid
  tenantId : Uuid
  key : Key
  state : AlertState
deriving DecidableEq

/-- The predicate of `alerts_one_open_per_target_uidx`. -/
def AlertRow.unresolved (r : AlertRow) : Bool := r.state != .resolved

/-- `INSERT … ON CONFLICT DO NOTHING` of `openAlert`, with the id the database would generate:
`none` on a conflict. -/
def openAlert (id tenantId : Uuid) (key : Key) (t : List AlertRow) : Option (List AlertRow) :=
  if t.any fun r => r.unresolved && r.key == key then none else some (t ++ [⟨id, tenantId, key, .open⟩])

def resolveAlert (id : Uuid) (t : List AlertRow) : List AlertRow :=
  updateWhere (fun r => r.id == id && r.unresolved) (fun r => { r with state := .resolved }) t

def acknowledgeAlert (id : Uuid) (t : List AlertRow) : List AlertRow :=
  updateWhere (fun r => r.id == id && r.state == .open) (fun r => { r with state := .acknowledged }) t

/-- Alerts still live in the database, keyed as the engine keys its state. -/
def loadLiveAlerts (tenantId : Uuid) (t : List AlertRow) : List (Key × Uuid) :=
  (t.filter fun r => r.tenantId == tenantId && r.unresolved).map fun r => (r.key, r.id)

/-! ## Resuming -/

/-- `#open` after its await. -/
def Engine.resumeOpen (e : Engine) (target : RuleTarget) (reply : OpenReply) : Engine :=
  let e := { e with tasks := Function.update e.tasks target.key none }
  match reply with
  | .inserted id =>
    let e := { e with opened := e.opened + 1 }
    match e.targetState target.key with
    | some ts => e.put target.key { ts with openAlertId := some id, clears := 0 }
    | none => e
  | .held => e
  | .failed => e

/-- `#close` after its await: the object it writes may have left the map. -/
def Engine.resumeClose (e : Engine) (target : RuleTarget) (ref : ℕ) (now : ℤ) (reply : CloseReply) :
    Engine :=
  let e := { e with tasks := Function.update e.tasks target.key none }
  match reply with
  | .done =>
    let e := { e with resolved := e.resolved + 1 }
    match e.targetState target.key with
    | some ts =>
      if ts.ref = ref then
        e.put target.key { ts with openAlertId := none, lastResolvedAt := now, clears := 0 }
      else e
    | none => e
  | .failed => e

/-! ## The machine -/

/-- Where `start` stands: before it, at its first `refresh`, adopting tenant after tenant (with what
has been loaded and not yet adopted), and done. -/
inductive Boot
  | new
  | loading
  | adopting (loaded : Option (List (Key × Uuid)))
  | running

structure Sys where
  boot : Boot
  engine : Engine
  alerts : List AlertRow

/-- A step.  `lost` says that a transaction committed and its connection failed before saying so. -/
inductive Act
  | start (now : ℤ) (profileSetpoints : Uuid → Option ℚ)
  | refresh (rules : List AlertRuleRow) (registry : List RegisteredSensor)
  | load (tenantId : Uuid)
  | adopt
  | ready
  | reading (sensor : RegisteredSensor) (reading : Reading) (now : ℤ)
  | sweep (now : ℤ)
  | commitOpen (key : Key) (id : Uuid) (lost : Bool)
  | failOpen (key : Key)
  | commitClose (key : Key) (lost : Bool)
  | failClose (key : Key)
  | resume (key : Key)
  | otherOpen (id tenantId : Uuid) (key : Key)
  | otherResolve (id : Uuid)
  | acknowledge (id : Uuid)

/-- What a step shows: the engine's transaction has inserted this alert. -/
inductive Obs
  | opened (key : Key) (id : Uuid)
deriving DecidableEq

def Sys.setTask (s : Sys) (key : Key) (task : Task) : Sys :=
  { s with engine := { s.engine with tasks := Function.update s.engine.tasks key (some task) } }

/-- The transaction of an `#open` in progress. -/
def Sys.commitOpen (s : Sys) (target : RuleTarget) (value : Option ℚ) (id : Uuid) (lost : Bool) :
    Option (Sys × List Obs) :=
  if s.alerts.any (·.id == id) then none
  else
    match openAlert id target.sensor.tenantId target.key s.alerts with
    | none =>
      some (s.setTask target.key (.opening target value (some (if lost then .failed else .held))), [])
    | some alerts =>
      some ({ s.setTask target.key
          (.opening target value (some (if lost then .failed else .inserted id))) with alerts := alerts },
        [.opened target.key id])

def step (s : Sys) : Act → Option (Sys × List Obs)
  | .start now profileSetpoints =>
    match s.boot with
    | .new =>
      some ({ s with
        boot := .loading
        engine := { s.engine with startedAt := now, profileSetpoints := profileSetpoints } }, [])
    | _ => none
  | .refresh rules registry =>
    match s.boot with
    | .loading =>
      some ({ s with boot := .adopting none, engine := s.engine.refresh rules registry }, [])
    | .running => some ({ s with engine := s.engine.refresh rules registry }, [])
    | _ => none
  | .load tenantId =>
    match s.boot with
    | .adopting none =>
      some ({ s with boot := .adopting (some (loadLiveAlerts tenantId s.alerts)) }, [])
    | _ => none
  | .adopt =>
    match s.boot with
    | .adopting (some live) =>
      some ({ s with boot := .adopting none, engine := s.engine.adopt live }, [])
    | _ => none
  | .ready =>
    match s.boot with
    | .adopting none => some ({ s with boot := .running }, [])
    | _ => none
  | .reading sensor reading now =>
    some ({ s with engine := s.engine.onReading sensor reading now }, [])
  | .sweep now =>
    match s.boot with
    | .running => some ({ s with engine := s.engine.sweep now }, [])
    | _ => none
  | .commitOpen key id lost =>
    match s.engine.tasks key with
    | some (.opening target value none) => s.commitOpen target value id lost
    | _ => none
  | .failOpen key =>
    match s.engine.tasks key with
    | some (.opening target value none) =>
      some (s.setTask target.key (.opening target value (some .failed)), [])
    | _ => none
  | .commitClose key lost =>
    match s.engine.tasks key with
    | some (.closing target ref alertId now none) =>
      some ({ s.setTask target.key
          (.closing target ref alertId now (some (if lost then .failed else .done))) with
        alerts := resolveAlert alertId s.alerts }, [])
    | _ => none
  | .failClose key =>
    match s.engine.tasks key with
    | some (.closing target ref alertId now none) =>
      some (s.setTask target.key (.closing target ref alertId now (some .failed)), [])
    | _ => none
  | .resume key =>
    match s.engine.tasks key with
    | some (.opening target _ (some reply)) =>
      some ({ s with engine := s.engine.resumeOpen target reply }, [])
    | some (.closing target ref _ now (some reply)) =>
      some ({ s with engine := s.engine.resumeClose target ref now reply }, [])
    | _ => none
  | .otherOpen id tenantId key =>
    if s.alerts.any (·.id == id) then none
    else
      match openAlert id tenantId key s.alerts with
      | none => none
      | some alerts => some ({ s with alerts := alerts }, [])
  | .otherResolve id => some ({ s with alerts := resolveAlert id s.alerts }, [])
  | .acknowledge id => some ({ s with alerts := acknowledgeAlert id s.alerts }, [])

def alerting : Machine Sys Act Obs := ⟨step⟩

/-- Before `start`, over any table of alerts. -/
def Sys.init (alerts : List AlertRow) : Sys := ⟨.new, .new, alerts⟩

end DTwin.Rules
