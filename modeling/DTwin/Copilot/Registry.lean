import DTwin.Lib.OrderedMap
import Mathlib.Algebra.Order.Ring.Int

/-!
# DTwin.Copilot.Registry — the run registry

`apps/web/lib/copilot/registry.ts`: each thread's open request, with its deadline and whether the operator has
pressed Stop.  The counters of the budget are left out.
-/

namespace DTwin.Copilot

open OrderedMap

/-- The limits that the registry, the plan check and the routers read. -/
structure Limits where
  deadlineS : ℕ
  planTtlS : ℕ
  grantTtlS : ℕ
  maxModelCalls : ℕ
  maxPlanCommands : ℕ
  maxDrafts : ℕ

structure Entry where
  requestId : String
  startedAt : ℤ
  deadlineAt : ℤ
  stopRequested : Bool

inductive BudgetReason | stopped | deadline | budget
deriving DecidableEq

structure Registry where
  entries : OrderedMap String Entry

def Registry.init : Registry := ⟨.empty⟩

/-- `#sweep`: drop requests that can no longer matter. -/
def Registry.sweep (r : Registry) (limits : Limits) (now : ℤ) : Registry where
  entries := r.entries.filterMapValues fun e =>
    if ((limits.deadlineS : ℤ) + limits.planTtlS) * 1000 ≤ now - e.startedAt then none else some e

/-- Open a request on a thread, in place of whatever the thread held. -/
def Registry.begin (r : Registry) (limits : Limits) (now : ℤ) (threadId requestId : String) : Registry where
  entries := (r.sweep limits now).entries.set threadId ⟨requestId, now, now + limits.deadlineS * 1000, false⟩

/-- Stop or deadline, but not the model-call budget. -/
def Registry.interrupted (r : Registry) (now : ℤ) (threadId : String) : Option BudgetReason :=
  match r.entries.get? threadId with
  | none => some .stopped
  | some e => if e.stopRequested then some .stopped else if e.deadlineAt ≤ now then some .deadline else none

/-- The operator's Stop; false if nothing was running. -/
def Registry.stop (r : Registry) (threadId : String) : Registry × Bool :=
  match r.entries.get? threadId with
  | none => (r, false)
  | some e => (⟨r.entries.set threadId { e with stopRequested := true }⟩, true)

def Registry.stopRequested (r : Registry) (threadId : String) : Bool :=
  ((r.entries.get? threadId).map Entry.stopRequested).getD false

def Registry.clearStop (r : Registry) (threadId : String) : Registry :=
  match r.entries.get? threadId with
  | none => r
  | some e => ⟨r.entries.set threadId { e with stopRequested := false }⟩

/-- `end`: close the request. -/
def Registry.close (r : Registry) (threadId : String) : Registry := ⟨r.entries.erase threadId⟩

/-! ## The request of a thread -/

variable {r : Registry} {limits : Limits} {now : ℤ} {threadId thread : String} {e : Entry}

/-- A sweep keeps the requests that are young. -/
theorem get?_sweep_entries (he : r.entries.get? thread = some e)
    (hyoung : now - e.startedAt < ((limits.deadlineS : ℤ) + limits.planTtlS) * 1000) :
    (r.sweep limits now).entries.get? thread = some e := by
  rw [Registry.sweep, get?_filterMapValues, he, Option.bind_some, if_neg (by omega)]

theorem get?_begin_entries (hne : thread ≠ threadId) (requestId : String) :
    (r.begin limits now threadId requestId).entries.get? thread = (r.sweep limits now).entries.get? thread := by
  rw [Registry.begin, get?_set, if_neg hne.symm]

theorem get?_close_entries (hne : thread ≠ threadId) :
    (r.close threadId).entries.get? thread = r.entries.get? thread := by
  rw [Registry.close, get?_erase, if_neg hne.symm]

theorem get?_clearStop_entries (hne : thread ≠ threadId) :
    (r.clearStop threadId).entries.get? thread = r.entries.get? thread := by
  unfold Registry.clearStop
  split
  · rfl
  · rw [get?_set, if_neg hne.symm]

/-- A Stop is kept by every other one. -/
theorem get?_stop_entries (threadId : String) (he : r.entries.get? thread = some e) :
    ∃ e', (r.stop threadId).1.entries.get? thread = some e' ∧ (e.stopRequested = true → e'.stopRequested = true) ∧
      (thread = threadId → e'.stopRequested = true) := by
  unfold Registry.stop
  split
  · rename_i hnone
    refine ⟨e, he, id, ?_⟩
    rintro rfl
    rw [he] at hnone
    cases hnone
  · rename_i e₀ he₀
    by_cases hne : threadId = thread
    · subst hne
      exact ⟨{ e₀ with stopRequested := true }, by simp [get?_set], fun _ => rfl, fun _ => rfl⟩
    · exact ⟨e, by simp [get?_set, hne, he], id, fun h => absurd h.symm hne⟩

end DTwin.Copilot
