import DTwin.Control.Store
import DTwin.Lib.Machine
import DTwin.Lib.OrderedMap

/-!
# DTwin.Ingest.Writer — the telemetry write buffer

`apps/ingest/src/writer.ts` with the statement of `insertReadings`
(`packages/db/src/queries/telemetry.ts`).  `writing` is the machine: readings are enqueued, the timer fires,
the awaited statement of a flush answers, and `stop` is called and returns, in any order.  Between two
awaits the code runs alone, so that each is one step.

`moving` takes the same steps in smaller moves (`step_moves`); what every move keeps, every step keeps
(`Machine.hist_of_refines`).  The `UPDATE` of `last_seen_at` is a statement that can fail; the column is
left out.
-/

namespace DTwin.Ingest

open Control OrderedMap

/-- `sensors.tenant_id`, by sensor. -/
abbrev Sensors := Uuid → Option Uuid

/-- A reading plus the tenant it belongs to, as resolved from its sensor. -/
structure OwnedReading (sensors : Sensors) extends Reading JsNumber where
  tenantId : Uuid
  resolved : sensors sensorId = some tenantId
deriving DecidableEq

/-- A row of `telemetry`: the column takes every double. -/
abbrev TelemetryRow := Control.TelemetryRow JsNumber

/-- The unique index of `telemetry`: sensor and time. -/
abbrev Key := Uuid × ℤ

variable {sensors : Sensors}

def OwnedReading.key (r : OwnedReading sensors) : Key := (r.sensorId, r.ts)

/-- The row of a reading. -/
def OwnedReading.row (r : OwnedReading sensors) : TelemetryRow :=
  ⟨r.tenantId, r.sensorId, r.ts, r.value, r.quality⟩

def rowKey (t : TelemetryRow) : Key := (t.sensorId, t.time)

@[simp] theorem rowKey_row (r : OwnedReading sensors) : rowKey r.row = r.key := rfl

/-- There is a row with this key. -/
def Stored (table : List TelemetryRow) (k : Key) : Prop := ∃ t ∈ table, rowKey t = k

instance (table : List TelemetryRow) (k : Key) : Decidable (Stored table k) :=
  inferInstanceAs (Decidable (∃ t ∈ table, rowKey t = k))

structure Config where
  bufferMaxRows : ℕ
  flushMaxRows : ℕ
  bufferMaxRows_pos : 0 < bufferMaxRows
  flushMaxRows_pos : 0 < flushMaxRows

structure WriterStats where
  written : ℕ
  dropped : ℕ
  flushes : ℕ
  failedFlushes : ℕ
  lastError : Option String
  lastFlushMs : Option ℤ

/-! ## The statement -/

/-- One row of `INSERT … SELECT … JOIN sensors … ON CONFLICT (sensor_id, time) DO NOTHING`, under the row-level
security of `tenantId`. -/
def insertReading (tenantId : Uuid) (table : List TelemetryRow) (r : OwnedReading sensors) :
    List TelemetryRow :=
  match sensors r.sensorId with
  | some owner =>
    if owner = tenantId ∧ ¬ Stored table r.key then
      table ++ [⟨owner, r.sensorId, r.ts, r.value, r.quality⟩]
    else table
  | none => table

def insertReadings (tenantId : Uuid) (readings : List (OwnedReading sensors))
    (table : List TelemetryRow) : List TelemetryRow :=
  readings.foldl (insertReading tenantId) table

/-- The rows the statement adds. -/
def insertedRows (tenantId : Uuid) (readings : List (OwnedReading sensors))
    (table : List TelemetryRow) : List TelemetryRow :=
  (insertReadings tenantId readings table).drop table.length

/-! ## Batches -/

/-- Collapse duplicate (sensor, time) pairs, the last write under a key staying. -/
def dedupe (readings : List (OwnedReading sensors)) : List (OwnedReading sensors) :=
  if readings.length < 2 then readings else (ofList OwnedReading.key readings).values

/-- Partition a batch by tenant, preserving order within each group. -/
def groupByTenant (readings : List (OwnedReading sensors)) :
    List (Uuid × List (OwnedReading sensors)) :=
  (groupBy (·.tenantId) readings).entries

/-- Sensors touched since the last flush, per tenant. -/
abbrev Touched := OrderedMap Uuid (List Uuid)

def Touched.add (t : Touched) (tenantId sensorId : Uuid) : Touched :=
  let ids := (t.get? tenantId).getD []
  t.set tenantId (if ids.contains sensorId then ids else ids ++ [sensorId])

/-! ## The writer -/

/-- A flush between its awaits: what it has taken, the groups it has still to insert and the tenants it
has still to mark seen, the first of them awaited; `waiter` is the call of `stop` that awaits it. -/
structure Flush (sensors : Sensors) where
  batch : List (OwnedReading sensors)
  touched : Touched
  started : ℤ
  written : ℕ
  groups : List (Uuid × List (OwnedReading sensors))
  seen : List (Uuid × List Uuid)
  waiter : Option ℕ

/-- The writer and its table; `returned` are the calls of `stop` whose flush has returned. -/
structure Sys (sensors : Sensors) where
  buffer : List (OwnedReading sensors)
  touched : Touched
  flushing : Option (Flush sensors)
  timer : Bool
  stats : WriterStats
  table : List TelemetryRow
  returned : List ℕ

/-- How an awaited statement ends: `lost` when it has committed and its caller is told otherwise. -/
inductive Outcome
  | ok
  | failed (message : String)
  | lost (message : String)

inductive Act (sensors : Sensors)
  | start
  | timer (now : ℤ)
  | enqueue (readings : List (OwnedReading sensors)) (now : ℤ)
  | answer (outcome : Outcome) (now : ℤ)
  | stop (i : ℕ) (now : ℤ)
  | resolve (i : ℕ)

inductive Obs (sensors : Sensors)
  | enqueued (readings : List (OwnedReading sensors))
  /-- shed on overflow, and counted -/
  | dropped (readings : List (OwnedReading sensors))
  | began (batch : List (OwnedReading sensors))
  | inserted (rows : List TelemetryRow)
  /-- a flush has completed, with so many rows inserted -/
  | settled (batch : List (OwnedReading sensors)) (written : ℕ)
  /-- a flush has failed, with so many rows inserted -/
  | failed (batch : List (OwnedReading sensors)) (written : ℕ)
  | stopped (i : ℕ)

/-- The rows over the cap, oldest first. -/
def Config.overflow (cfg : Config) (buffer : List (OwnedReading sensors)) : List (OwnedReading sensors) :=
  buffer.take (buffer.length - cfg.bufferMaxRows)

/-- The rows under the cap, newest last. -/
def Config.kept (cfg : Config) (buffer : List (OwnedReading sensors)) : List (OwnedReading sensors) :=
  buffer.drop (buffer.length - cfg.bufferMaxRows)

/-- `enqueue`, up to its flush. -/
def Sys.push (s : Sys sensors) (cfg : Config) (readings : List (OwnedReading sensors)) :
    Sys sensors × List (Obs sensors) :=
  let buffer := s.buffer ++ readings
  let dropped := cfg.overflow buffer
  ({ s with
      buffer := cfg.kept buffer
      touched := readings.foldl (fun t r => t.add r.tenantId r.sensorId) s.touched
      stats := { s.stats with dropped := s.stats.dropped + dropped.length } },
    [.enqueued readings, .dropped dropped])

/-- The swap: readings arriving from now on belong to the next batch. -/
def Sys.begin (s : Sys sensors) (waiter : Option ℕ) (now : ℤ) : Sys sensors × List (Obs sensors) :=
  ({ s with
      buffer := []
      touched := .empty
      flushing := some
        { batch := s.buffer, touched := s.touched, started := now, written := 0
          groups := groupByTenant (dedupe s.buffer), seen := s.touched.entries.filter (·.2 ≠ [])
          waiter := waiter } },
    [.began s.buffer])

/-- `flush`, up to its first await. -/
def Sys.flush (s : Sys sensors) (waiter : Option ℕ) (now : ℤ) : Sys sensors × List (Obs sensors) :=
  if s.flushing.isSome ∨ s.buffer = [] then ({ s with returned := s.returned ++ waiter.toList }, [])
  else s.begin waiter now

/-- The awaited insert has added its rows. -/
def Flush.count (f : Flush sensors) (table : List TelemetryRow) (tenantId : Uuid)
    (group : List (OwnedReading sensors)) (groups : List (Uuid × List (OwnedReading sensors))) :
    Flush sensors :=
  { f with groups := groups, written := f.written + (insertedRows tenantId group table).length }

def Sys.insert (s : Sys sensors) (f : Flush sensors) (tenantId : Uuid)
    (group : List (OwnedReading sensors)) (groups : List (Uuid × List (OwnedReading sensors))) :
    Sys sensors × List (Obs sensors) :=
  ({ s with
      table := insertReadings tenantId group s.table
      flushing := some (f.count s.table tenantId group groups) },
    [.inserted (insertedRows tenantId group s.table)])

/-- The end of the `try`, and the `finally`. -/
def Sys.finish (s : Sys sensors) (f : Flush sensors) (now : ℤ) : Sys sensors × List (Obs sensors) :=
  ({ s with
      flushing := none
      stats := { s.stats with
        written := s.stats.written + f.written
        flushes := s.stats.flushes + 1
        lastError := none
        lastFlushMs := some (now - f.started) }
      returned := s.returned ++ f.waiter.toList },
    [.settled f.batch f.written])

/-- The `catch`, and the `finally`: the batch goes back in front of what has arrived since. -/
def Sys.fail (s : Sys sensors) (cfg : Config) (f : Flush sensors) (message : String) :
    Sys sensors × List (Obs sensors) :=
  let buffer := f.batch ++ s.buffer
  let dropped := cfg.overflow buffer
  ({ s with
      flushing := none
      buffer := cfg.kept buffer
      touched := f.touched.entries.foldl
        (fun t e => e.2.foldl (fun t sensorId => t.add e.1 sensorId) t) s.touched
      stats := { s.stats with
        dropped := s.stats.dropped + dropped.length
        failedFlushes := s.stats.failedFlushes + 1
        lastError := some message }
      returned := s.returned ++ f.waiter.toList },
    [.failed f.batch f.written, .dropped dropped])

/-- The next statement of the flush, or its end. -/
def Sys.proceed (s : Sys sensors) (f : Flush sensors) (now : ℤ) : Sys sensors × List (Obs sensors) :=
  if f.groups = [] ∧ f.seen = [] then s.finish f now else (s, [])

/-- One computation after another. -/
def andThen (r : Sys sensors × List (Obs sensors)) (k : Sys sensors → Sys sensors × List (Obs sensors)) :
    Sys sensors × List (Obs sensors) :=
  ((k r.1).1, r.2 ++ (k r.1).2)

/-- The awaited statement of the flush has answered. -/
def Sys.answer (s : Sys sensors) (cfg : Config) (f : Flush sensors) (outcome : Outcome) (now : ℤ) :
    Sys sensors × List (Obs sensors) :=
  match f.groups, f.seen with
  | (tenantId, group) :: groups, _ =>
    let g := f.count s.table tenantId group groups
    match outcome with
    | .ok => andThen (s.insert f tenantId group groups) (·.proceed g now)
    | .failed message => s.fail cfg f message
    | .lost message => andThen (s.insert f tenantId group groups) (·.fail cfg g message)
  | [], (_, _) :: seen =>
    match outcome with
    | .ok =>
      let g := { f with seen := seen }
      Sys.proceed { s with flushing := some g } g now
    | .failed message => s.fail cfg f message
    | .lost message => s.fail cfg f message
  | [], [] => (s, [])

def step (cfg : Config) (s : Sys sensors) : Act sensors → Option (Sys sensors × List (Obs sensors))
  | .start => some ({ s with timer := true }, [])
  | .timer now => if s.timer then some (s.flush none now) else none
  | .enqueue readings now =>
    some <| andThen (s.push cfg readings) fun s' =>
      if cfg.flushMaxRows ≤ s'.buffer.length then s'.flush none now else (s', [])
  | .answer outcome now => s.flushing.map fun f => s.answer cfg f outcome now
  | .stop i now => some (Sys.flush { s with timer := false } (some i) now)
  | .resolve i =>
    if i ∈ s.returned then some ({ s with returned := s.returned.erase i }, [.stopped i]) else none

def writing (cfg : Config) : Machine (Sys sensors) (Act sensors) (Obs sensors) := ⟨step cfg⟩

/-! ## Moves -/

/-- What a step is made of. -/
inductive Move (sensors : Sensors)
  | aside (timer : Bool) (returned stopped : List ℕ)
  | push (readings : List (OwnedReading sensors))
  | begin (waiter : Option ℕ) (now : ℤ)
  | insert
  | see
  | finish (now : ℤ)
  | fail (message : String)

/-- The moves that need no leave. -/
def Move.IsFree : Move sensors → Prop
  | .push _ => False
  | .insert => False
  | .fail _ => False
  | _ => True

def move (cfg : Config) (s : Sys sensors) : Move sensors → Option (Sys sensors × List (Obs sensors))
  | .aside timer returned stopped =>
    some ({ s with timer := timer, returned := returned }, stopped.map .stopped)
  | .push readings => some (s.push cfg readings)
  | .begin waiter now => if s.flushing.isSome ∨ s.buffer = [] then none else some (s.begin waiter now)
  | .insert =>
    s.flushing.bind fun f =>
      match f.groups with
      | (tenantId, group) :: groups => some (s.insert f tenantId group groups)
      | [] => none
  | .see =>
    s.flushing.bind fun f =>
      match f.groups, f.seen with
      | [], _ :: seen => some ({ s with flushing := some { f with seen := seen } }, [])
      | _, _ => none
  | .finish now =>
    s.flushing.bind fun f => if f.groups = [] ∧ f.seen = [] then some (s.finish f now) else none
  | .fail message => s.flushing.map fun f => s.fail cfg f message

def moving (cfg : Config) : Machine (Sys sensors) (Move sensors) (Obs sensors) := ⟨move cfg⟩

/-- A new writer over a table. -/
def Sys.init (table : List TelemetryRow) : Sys sensors :=
  ⟨[], .empty, none, false, ⟨0, 0, 0, 0, none, none⟩, table, []⟩

end DTwin.Ingest
