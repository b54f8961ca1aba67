import DTwin.Device.Generate
import DTwin.Lib.Machine
import Mathlib.Data.List.Nodup

/-!
# DTwin.Device.Machine — the simulated building, tick by tick

`DeviceSimulator` of `apps/ingest/src/simulator/index.ts` after its `start`, with the fault routes of `server.ts`:
what `tick` emits, what `pollCommands` leaves in a context, and a registry that is replaced while this goes on.  The
clock may say anything.  `tickAll_hist` is the rule for a tick: what each sensor of the registry keeps, the tick
keeps.
-/

namespace DTwin.Device

open Control OrderedMap Machine

/-- Constant for a run. -/
structure Config where
  simSpeedup : ℚ
  lib : Library

structure SensorState where
  lastEmit : ℤ
  lastValue : Option ℚ
  /-- Running total for cumulative points. -/
  accumulator : ℚ
deriving DecidableEq

/-- `SensorRegistry`, of which each sensor has its id. -/
structure Registry where
  all : List RegisteredSensor
  ids : (all.map fun r => r.id).Nodup

def Registry.byId (r : Registry) (id : Uuid) : Option RegisteredSensor := r.all.find? fun sensor => sensor.id = id

structure Sys where
  /-- One context per tenant. -/
  ctx : Uuid → Option SimContext
  state : Uuid → Option SensorState
  faults : Uuid → Option Fault
  registry : Registry

/-- A reading, with the fault that was applied to it and the counter it left. -/
structure SimulatedReading where
  sensor : RegisteredSensor
  value : ℚ
  ts : ℤ
  fault : Option Fault
  accumulator : ℚ
deriving DecidableEq

inductive Act
  /-- `draw` is what `Math.random()` answers while the value of a sensor is made. -/
  | tick (now : ℤ) (draw : Uuid → ℕ → ℚ)
  /-- A poll of the tenant's commands has come to its end. -/
  | polled (tenantId : Uuid) (overrides : List ActiveOverride)
  | postFault (tenantId sensorId : Uuid) (kind : FaultKind) (magnitude : ℚ) (now : ℤ)
  | deleteFault (tenantId sensorId : Uuid)
  | deleteFaults (tenantId : Uuid)
  | refreshed (registry : Registry)

/-- What a fault route answers. -/
inductive Answer
  /-- `{ error: 'unknown sensor' }`, also for a sensor of another tenant. -/
  | unknownSensor
  | injected (sensorId : Uuid) (kind : FaultKind)
  | cleared (cleared : Bool)
  /-- `{ cleared: 'all for tenant' }`. -/
  | clearedAll
deriving DecidableEq

def Answer.status : Answer → ℕ
  | unknownSensor => 404
  | _ => 200

inductive Obs
  | emitted (r : SimulatedReading)
  | answered (tenantId : Uuid) (answer : Answer)
deriving DecidableEq

/-- Cumulative points start mid-life. -/
def seedAccumulator (sensor : RegisteredSensor) : ℚ :=
  if !sensor.isCumulative then 0 else if sensor.metric = .waterM3 then 12000 else 1250000

/-- After `start`: counters resume from their last stored reading. -/
def Sys.start (ctx : Uuid → Option SimContext) (registry : Registry) (stored : Uuid → Option ℚ) : Sys where
  ctx := ctx
  state id := ((registry.byId id).filter RegisteredSensor.isCumulative).map fun sensor =>
    ⟨0, none, (stored id).getD (seedAccumulator sensor)⟩
  faults _ := none
  registry := registry

/-! ## A tick -/

def Sys.withState (s : Sys) (id : Uuid) (st : SensorState) : Sys :=
  { s with state := Function.update s.state id (some st) }

/-- The state of a sensor, made when it is first seen. -/
def Sys.stateOf (s : Sys) (sensor : RegisteredSensor) : SensorState :=
  (s.state sensor.id).getD ⟨0, none, seedAccumulator sensor⟩

def intervalMs (cfg : Config) (sensor : RegisteredSensor) : ℚ :=
  max 200 (sensor.sampleIntervalS * 1000 / cfg.simSpeedup)

/-- The time that a reading accounts for. -/
def dtHours (cfg : Config) (sensor : RegisteredSensor) (st : SensorState) (now : ℤ) : ℚ :=
  (if st.lastEmit = 0 then intervalMs cfg sensor else (now - st.lastEmit : ℤ)) / HOUR_MS

/-- The reading of a sensor that is due. -/
def reading (cfg : Config) (ctx : SimContext) (sensor : RegisteredSensor) (st : SensorState) (fault : Option Fault)
    (now : ℤ) (draw : ℕ → ℚ) : SimulatedReading :=
  let m := moment cfg.lib ctx sensor (localTime cfg.lib now ctx.timezone)
  let made := generate cfg.lib m sensor.metric st.accumulator (dtHours cfg sensor st now) draw
  ⟨sensor, applyFault made.1 fault st.lastValue now, now, fault, made.2⟩

/-- One turn of the loop of `tick`. -/
def Sys.emit (cfg : Config) (now : ℤ) (draw : Uuid → ℕ → ℚ) (s : Sys) (sensor : RegisteredSensor) : Sys × List Obs :=
  match s.ctx sensor.tenantId with
  | none => (s, [])
  | some ctx =>
    let st := s.stateOf sensor
    if ((now - st.lastEmit : ℤ) : ℚ) < intervalMs cfg sensor then (s.withState sensor.id st, [])
    else if (s.faults sensor.id).any fun f => f.kind = .offline then (s.withState sensor.id st, [])
    else
      let r := reading cfg ctx sensor st (s.faults sensor.id) now (draw sensor.id)
      (s.withState sensor.id ⟨now, some r.value, r.accumulator⟩, [.emitted r])

/-- The loop of `tick`. -/
def tickAll (cfg : Config) (now : ℤ) (draw : Uuid → ℕ → ℚ) : List RegisteredSensor → Sys → Sys × List Obs
  | [], s => (s, [])
  | sensor :: rest, s =>
    let (s₁, o₁) := s.emit cfg now draw sensor
    let (s₂, o₂) := tickAll cfg now draw rest s₁
    (s₂, o₁ ++ o₂)

/-! ## The routes -/

/-- The sensor of an id, if it is the tenant's. -/
def Sys.owned (s : Sys) (tenantId sensorId : Uuid) : Option RegisteredSensor :=
  (s.registry.byId sensorId).filter fun sensor => sensor.tenantId = tenantId

def Sys.withFaults (s : Sys) (faults : Uuid → Option Fault) : Sys := { s with faults }

/-- `clearFaultsForTenant`. -/
def Sys.clearFaultsForTenant (s : Sys) (tenantId : Uuid) : Sys :=
  s.withFaults fun id => if (s.owned tenantId id).isSome then none else s.faults id

def Sys.setOverrides (s : Sys) (tenantId : Uuid) (overrides : List ActiveOverride) : Sys :=
  { s with ctx := Function.update s.ctx tenantId ((s.ctx tenantId).map fun c => { c with overrides }) }

def Sys.perform (cfg : Config) (s : Sys) : Act → Sys × List Obs
  | .tick now draw => tickAll cfg now draw s.registry.all s
  | .polled tenantId overrides => (s.setOverrides tenantId overrides, [])
  | .postFault tenantId sensorId kind magnitude now =>
    match s.owned tenantId sensorId with
    | none => (s, [.answered tenantId .unknownSensor])
    | some sensor =>
      (s.withFaults (Function.update s.faults sensor.id (some ⟨kind, magnitude, now⟩)),
        [.answered tenantId (.injected sensor.id kind)])
  | .deleteFault tenantId sensorId =>
    match s.owned tenantId sensorId with
    | none => (s, [.answered tenantId .unknownSensor])
    | some _ =>
      (s.withFaults (Function.update s.faults sensorId none),
        [.answered tenantId (.cleared (s.faults sensorId).isSome)])
  | .deleteFaults tenantId => (s.clearFaultsForTenant tenantId, [.answered tenantId .clearedAll])
  | .refreshed registry => ({ s with registry }, [])

def device (cfg : Config) : Machine Sys Act Obs := ⟨fun s a => some (s.perform cfg a)⟩

/-! ## What a turn does -/

variable {cfg : Config} {now : ℤ} {draw : Uuid → ℕ → ℚ} {s s' : Sys} {sensor : RegisteredSensor} {o : List Obs}

/-- A turn sets the state of its sensor at most, and emits its reading if it is due. -/
inductive Sys.Turn (cfg : Config) (now : ℤ) (draw : Uuid → ℕ → ℚ) (s : Sys) (sensor : RegisteredSensor) :
    Sys → List Obs → Prop
  | unknown (hctx : s.ctx sensor.tenantId = none) : s.Turn cfg now draw sensor s []
  | silent {ctx : SimContext} (hctx : s.ctx sensor.tenantId = some ctx)
      (hnot : ((now - (s.stateOf sensor).lastEmit : ℤ) : ℚ) < intervalMs cfg sensor ∨
        (s.faults sensor.id).any (fun f => f.kind = .offline) = true) :
    s.Turn cfg now draw sensor (s.withState sensor.id (s.stateOf sensor)) []
  | emitted {ctx : SimContext} (hctx : s.ctx sensor.tenantId = some ctx)
      (hdue : intervalMs cfg sensor ≤ ((now - (s.stateOf sensor).lastEmit : ℤ) : ℚ))
      (honline : (s.faults sensor.id).any (fun f => f.kind = .offline) = false) (r : SimulatedReading)
      (hr : r = reading cfg ctx sensor (s.stateOf sensor) (s.faults sensor.id) now (draw sensor.id)) :
    s.Turn cfg now draw sensor (s.withState sensor.id ⟨now, some r.value, r.accumulator⟩) [.emitted r]

theorem emit_turn (cfg : Config) (now : ℤ) (draw : Uuid → ℕ → ℚ) (s : Sys) (sensor : RegisteredSensor) :
    s.Turn cfg now draw sensor (s.emit cfg now draw sensor).1 (s.emit cfg now draw sensor).2 := by
  unfold Sys.emit
  split
  · next hctx => exact .unknown hctx
  · next ctx hctx =>
    dsimp only
    split_ifs with hearly hoffline
    · exact .silent hctx (Or.inl hearly)
    · exact .silent hctx (Or.inr hoffline)
    · exact .emitted hctx (not_lt.mp hearly) (Bool.not_eq_true _ ▸ hoffline) _ rfl

/-- **Rule for a tick.** -/
theorem tickAll_hist {I : Sys → List Obs → Prop}
    (hturn : ∀ {s h sensor s' o}, I s h → s.Turn cfg now draw sensor s' o → I s' (h ++ o)) :
    ∀ (l : List RegisteredSensor) {s : Sys} {h : List Obs}, I s h →
      I (tickAll cfg now draw l s).1 (h ++ (tickAll cfg now draw l s).2)
  | [], s, h, hI => by rw [tickAll, List.append_nil]; exact hI
  | sensor :: rest, s, h, hI => by
    rw [tickAll, ← List.append_assoc]
    exact tickAll_hist hturn rest (hturn hI (emit_turn cfg now draw s sensor))

end DTwin.Device
