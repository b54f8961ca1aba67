import Mathlib.Tactic.Common

/-!
# DTwin.Lib.Semaphore — counting the holders of a bounded semaphore

`BoundedSemaphore` as the standard library of Python has it: taking a slot fails when none is free, giving one
back fails when none is taken.  `Holds n` says that `n` slots are taken; a program that keeps it never sees the
second failure (`Holds.release`).
-/

namespace DTwin

structure BoundedSemaphore where
  value : ℕ
  initial : ℕ
  deriving DecidableEq

namespace BoundedSemaphore

def new (n : ℕ) : BoundedSemaphore := { value := n, initial := n }

/-- `acquire(blocking=False)`. -/
def acquire (s : BoundedSemaphore) : Option BoundedSemaphore :=
  if s.value = 0 then none else some { s with value := s.value - 1 }

/-- `release()`; `none` is the `ValueError`. -/
def release (s : BoundedSemaphore) : Option BoundedSemaphore :=
  if s.initial ≤ s.value then none else some { s with value := s.value + 1 }

/-- `n` of the slots of `s`, which has `initial` of them, are taken. -/
structure Holds (initial n : ℕ) (s : BoundedSemaphore) : Prop where
  bound : s.initial = initial
  balance : s.value + n = initial

theorem holds_new (n : ℕ) : Holds n 0 (new n) := ⟨rfl, rfl⟩

variable {initial n : ℕ} {s s' : BoundedSemaphore}

theorem Holds.le (h : Holds initial n s) : n ≤ initial := by
  have := h.balance
  omega

theorem Holds.acquire (h : Holds initial n s) (ha : s.acquire = some s') : Holds initial (n + 1) s' := by
  have hb := h.balance
  unfold BoundedSemaphore.acquire at ha
  split at ha
  · cases ha
  · obtain rfl := Option.some.inj ha
    exact ⟨h.bound, by dsimp only; omega⟩

/-- A slot that is held can be given back. -/
theorem Holds.release (h : Holds initial (n + 1) s) : ∃ s', s.release = some s' ∧ Holds initial n s' := by
  have hb := h.balance
  have hi := h.bound
  refine ⟨{ s with value := s.value + 1 }, ?_, hi, ?_⟩
  · unfold BoundedSemaphore.release
    rw [if_neg]
    omega
  · dsimp only
    omega

end BoundedSemaphore

end DTwin
