import Mathlib.Algebra.Order.Ring.Rat
import DTwin.Lib.Machine

/-!
# DTwin.Sim.Execute — one simulation run: its row, `_execute` and `cancel_run`

The row of `simulation_runs` has four writers after `create_run`: `mark_running`, `mark_completed` and
`mark_failed` update it by id, `mark_cancelled` only while it is queued or running.  `Run.step` is one
statement of `_execute`, of the engine's progress hook or of `cancel_run`; which of them raises is in the
label.
-/

namespace DTwin.Sim

/-- The enum `simulation_status`. -/
inductive Status
  | queued
  | running
  | completed
  | failed
  | cancelled
  deriving DecidableEq, Repr

/-- The statuses nothing follows. -/
def Status.Terminal : Status → Prop
  | .queued | .running => False
  | .completed | .failed | .cancelled => True

instance : DecidablePred Status.Terminal := fun s => by
  cases s <;> unfold Status.Terminal <;> infer_instance

/-- What the writers read and write of a row of `simulation_runs`. -/
structure Row where
  status : Status
  progressPct : ℚ
  error : Option String
  deriving DecidableEq

namespace Row

def markRunning (row : Row) : Row := { row with status := .running }

def setProgress (pct : ℚ) (row : Row) : Row := { row with progressPct := min 100 (max 0 pct) }

def markCompleted (row : Row) : Row := { row with status := .completed, progressPct := 100 }

/-- `UPDATE … WHERE status IN ('queued', 'running')`, and whether it found the row. -/
def markCancelled (row : Row) : Row × Bool :=
  if row.status = .queued ∨ row.status = .running then ({ row with status := .cancelled }, true) else (row, false)

/-- `error[:2000]`. -/
def markFailed (error : String) (row : Row) : Row :=
  { row with status := .failed, error := some (error.take 2000).toString }

/-- The row `create_run` inserts. -/
def created : Row := { status := .queued, progressPct := 0, error := none }

@[simp] theorem created_status : created.status = .queued := rfl
@[simp] theorem markRunning_status (row : Row) : row.markRunning.status = .running := rfl
@[simp] theorem setProgress_status (pct : ℚ) (row : Row) : (row.setProgress pct).status = row.status := rfl
@[simp] theorem markCompleted_status (row : Row) : row.markCompleted.status = .completed := rfl
@[simp] theorem markFailed_status (error : String) (row : Row) : (row.markFailed error).status = .failed := rfl

/-- The guard of the one statement that has one. -/
theorem markCancelled_cases (row : Row) :
    (¬ row.status.Terminal ∧ row.markCancelled = ({ row with status := .cancelled }, true)) ∨
      (row.status.Terminal ∧ row.markCancelled = (row, false)) := by
  unfold markCancelled
  cases hs : row.status <;> simp [Status.Terminal]

end Row

/-- A tenant that `tenant_id` has let through. -/
structure Tenant where
  id : String
  named : id ≠ ""

/-- `tenant_id`: the `X-Tenant-Id` header, or 401. -/
def tenantId (xTenantId : Option String) : Except (ℕ × String) Tenant :=
  match xTenantId with
  | none => .error (401, "X-Tenant-Id header is required")
  | some id => if h : id = "" then .error (401, "X-Tenant-Id header is required") else .ok ⟨id, h⟩

/-- Entering `tenant_scope`. -/
def tenantScope (tenantId : String) : Except String String :=
  if tenantId = "" then .error "tenant_scope requires a tenant id" else .ok tenantId

@[simp] theorem tenantScope_tenant (t : Tenant) : tenantScope t.id = .ok t.id := by
  simp [tenantScope, t.named]

/-- The statement of `_execute` that is next. -/
inductive Phase
  /-- `add_task` has scheduled it. -/
  | scheduled
  | markingRunning
  /-- `engine.run`. -/
  | engine
  | markingCompleted
  /-- `_build_summary` and `notify.complete`. -/
  | summarising
  /-- `except RunCancelled`. -/
  | unwinding
  /-- `except Exception`, with the message. -/
  | failing (message : String)
  /-- `notify.failed` after `mark_failed`. -/
  | reporting (message : String)
  /-- `finally`. -/
  | leaving
  | returned
  deriving DecidableEq

/-- A run: its row, whether its id is in `_cancelled`, the `cancel_run` requests that have stopped the row and not
yet set the flag, and its background task. -/
structure Run where
  tenant : Tenant
  row : Row
  cancelled : Bool
  stopping : ℕ
  phase : Phase

/-- What moves: `cancel_run` in two halves, and the statements of `_execute`.  Where a statement can raise,
`raised` is the text of the exception. -/
inductive Act
  | cancelRow
  | cancelFlag
  | enter
  | markRunning (raised : Option String)
  | progress (pct : ℚ) (raised : Option String)
  | engine (raised : Option String)
  | markCompleted (raised : Option String)
  | summary (raised : Option String)
  | notifyCancelled (raised : Option String)
  | markFailed (raised : Option String)
  | notifyFailed (raised : Option String)
  | leave

/-- What is seen: an `UPDATE` of the status, the answers of `cancel_run`, and `_slots.release()`. -/
inductive Obs
  | wrote (status : Status)
  | cancelled200
  | finished409
  | released
  deriving DecidableEq

namespace Run

/-- Where a statement of the `try` block leads. -/
def next (raised : Option String) (phase : Phase) : Phase :=
  match raised with
  | none => phase
  | some message => .failing message

/-- One statement.  `none`: it is not that statement's turn. -/
def step (run : Run) (a : Act) : Option (Run × List Obs) :=
  match a, run.phase with
  | .cancelRow, _ =>
    if run.row.markCancelled.2 then
      some ({ run with row := run.row.markCancelled.1, stopping := run.stopping + 1 }, [.wrote .cancelled])
    else some (run, [.finished409])
  | .cancelFlag, _ =>
    if 0 < run.stopping then
      some ({ run with cancelled := true, stopping := run.stopping - 1 }, [.cancelled200])
    else none
  | .enter, .scheduled =>
    match tenantScope run.tenant.id with
    | .ok _ => some ({ run with phase := .markingRunning }, [])
    | .error _ => some ({ run with phase := .returned }, [])
  | .markRunning raised, .markingRunning =>
    match raised with
    | none => some ({ run with row := run.row.markRunning, phase := .engine }, [.wrote .running])
    | some message => some ({ run with phase := .failing message }, [])
  -- `set_progress`, then the hook: `_check_cancelled` before `notify.progress`
  | .progress pct raised, .engine =>
    let run := { run with row := run.row.setProgress pct }
    if run.cancelled then some ({ run with phase := .unwinding }, [])
    else some ({ run with phase := next raised .engine }, [])
  | .engine raised, .engine => some ({ run with phase := next raised .markingCompleted }, [])
  | .markCompleted raised, .markingCompleted =>
    match raised with
    | none => some ({ run with row := run.row.markCompleted, phase := .summarising }, [.wrote .completed])
    | some message => some ({ run with phase := .failing message }, [])
  | .summary raised, .summarising => some ({ run with phase := next raised .leaving }, [])
  | .notifyCancelled _, .unwinding => some ({ run with phase := .leaving }, [])
  | .markFailed raised, .failing message =>
    match raised with
    | none =>
      some ({ run with row := run.row.markFailed message, phase := .reporting message }, [.wrote .failed])
    -- the handler itself raises: its `notify.failed` is not reached
    | some _ => some ({ run with phase := .leaving }, [])
  | .notifyFailed _, .reporting _ => some ({ run with phase := .leaving }, [])
  | .leave, .leaving => some ({ run with cancelled := false, phase := .returned }, [.released])
  | _, _ => none

/-- `cancel_run` is not part of `_execute`. -/
theorem step_cancel {run run' : Run} {a : Act} {o : List Obs} (ha : a = .cancelRow ∨ a = .cancelFlag)
    (hs : run.step a = some (run', o)) : run'.phase = run.phase ∧ .released ∉ o := by
  rcases ha with rfl | rfl <;> simp only [step] at hs <;> split at hs
  · obtain ⟨rfl, rfl⟩ : _ ∧ _ := by simpa using hs
    exact ⟨rfl, by simp⟩
  · obtain ⟨rfl, rfl⟩ : _ ∧ _ := by simpa using hs
    exact ⟨rfl, by simp⟩
  · obtain ⟨rfl, rfl⟩ : _ ∧ _ := by simpa using hs
    exact ⟨rfl, by simp⟩
  · cases hs

/-- **`_execute` ends in its `finally`**: a step gives the slot back and ends the task, or does neither. -/
theorem step_slot {run run' : Run} {a : Act} {o : List Obs} (hs : run.step a = some (run', o)) :
    (.released ∈ o ∧ run.phase ≠ .returned ∧ run'.phase = .returned) ∨
      (.released ∉ o ∧ (run'.phase = .returned ↔ run.phase = .returned)) := by
  unfold step at hs
  split at hs
  case h_1 =>
    split at hs <;> simp only [Option.some.injEq, Prod.mk.injEq] at hs <;> obtain ⟨rfl, rfl⟩ := hs <;>
      exact .inr ⟨by simp, Iff.rfl⟩
  case h_2 =>
    split at hs
    · simp only [Option.some.injEq, Prod.mk.injEq] at hs
      obtain ⟨rfl, rfl⟩ := hs
      exact .inr ⟨by simp, Iff.rfl⟩
    · cases hs
  case h_3 hp =>
    simp only [tenantScope_tenant, Option.some.injEq, Prod.mk.injEq] at hs
    obtain ⟨rfl, rfl⟩ := hs
    exact .inr ⟨by simp, by simp [hp]⟩
  case h_4 raised hp | h_7 raised hp | h_10 raised message hp =>
    cases raised <;> simp only [Option.some.injEq, Prod.mk.injEq] at hs <;> obtain ⟨rfl, rfl⟩ := hs <;>
      exact .inr ⟨by simp, by simp [hp]⟩
  case h_5 raised hp =>
    dsimp only at hs
    split at hs <;> simp only [Option.some.injEq, Prod.mk.injEq] at hs <;> obtain ⟨rfl, rfl⟩ := hs <;>
      cases raised <;> exact .inr ⟨by simp, by simp [hp, next]⟩
  case h_6 raised hp | h_8 raised hp =>
    simp only [Option.some.injEq, Prod.mk.injEq] at hs
    obtain ⟨rfl, rfl⟩ := hs
    cases raised <;> exact .inr ⟨by simp, by simp [hp, next]⟩
  case h_9 hp | h_11 message hp =>
    simp only [Option.some.injEq, Prod.mk.injEq] at hs
    obtain ⟨rfl, rfl⟩ := hs
    exact .inr ⟨by simp, by simp [hp]⟩
  case h_12 hp =>
    simp only [Option.some.injEq, Prod.mk.injEq] at hs
    obtain ⟨rfl, rfl⟩ := hs
    exact .inl ⟨by simp, by simp [hp], rfl⟩
  case h_13 => cases hs

/-- How many statements `_execute` is from its end when nothing raises. -/
def rank : Phase → ℕ
  | .scheduled => 6
  | .markingRunning => 5
  | .engine => 4
  | .markingCompleted => 3
  | .failing _ => 3
  | .summarising | .unwinding | .reporting _ => 2
  | .leaving => 1
  | .returned => 0

/-- A task that has not ended has a statement to run. -/
theorem exists_step {run : Run} (hp : run.phase ≠ .returned) :
    ∃ a run' o, run.step a = some (run', o) ∧ rank run'.phase < rank run.phase := by
  cases h : run.phase with
  | scheduled => exact ⟨.enter, _, _, by simp only [step, h, tenantScope_tenant]; rfl, by simp [rank]⟩
  | markingRunning => exact ⟨.markRunning none, _, _, by simp only [step, h]; rfl, by simp [rank]⟩
  | engine => exact ⟨.engine none, _, _, by simp only [step, h]; rfl, by simp [rank, next]⟩
  | markingCompleted => exact ⟨.markCompleted none, _, _, by simp only [step, h]; rfl, by simp [rank]⟩
  | summarising => exact ⟨.summary none, _, _, by simp only [step, h]; rfl, by simp [rank, next]⟩
  | unwinding => exact ⟨.notifyCancelled none, _, _, by simp only [step, h]; rfl, by simp [rank]⟩
  | failing message => exact ⟨.markFailed none, _, _, by simp only [step, h]; rfl, by simp [rank]⟩
  | reporting message => exact ⟨.notifyFailed none, _, _, by simp only [step, h]; rfl, by simp [rank]⟩
  | leaving => exact ⟨.leave, _, _, by simp only [step, h]; rfl, by simp [rank]⟩
  | returned => exact absurd h hp

/-- A run `create_run` has just inserted and `add_task` scheduled. -/
def admitted (tenant : Tenant) : Run :=
  { tenant, row := .created, cancelled := false, stopping := 0, phase := .scheduled }

end Run

end DTwin.Sim
