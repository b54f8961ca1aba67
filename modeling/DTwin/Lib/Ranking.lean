import Mathlib.Tactic.Common

/-!
# DTwin.Lib.Ranking — runs that end because a rank goes down

`run step isOver world limit k s` takes steps from `s` until it is over, the `n`-th of them told `world n`, and gives up
after `limit` of them.  If every step is defined and lowers a rank while an invariant holds, then the run is over after
at most as many steps as the rank (`run_ends`); how far it would have been allowed to go does not matter.

Nothing here knows what is being run.
-/

namespace DTwin.Ranking

variable {σ ω : Type}

inductive Ended (σ : Type)
  /-- Over, in a state, after so many steps. -/
  | done (steps : ℕ) (s : σ)
  /-- Given up at the limit. -/
  | exhausted
  /-- A step was not defined. -/
  | failed

def run (step : ω → σ → Option σ) (isOver : σ → Bool) (world : ℕ → ω) : ℕ → ℕ → σ → Ended σ
  | limit, k, s =>
    if isOver s then .done k s
    else
      match limit with
      | 0 => .exhausted
      | limit + 1 =>
        match step (world k) s with
        | none => .failed
        | some s' => run step isOver world limit (k + 1) s'

/-- Every step is defined while the invariant holds, keeps it, and lowers the rank. -/
def Descends (step : ω → σ → Option σ) (isOver : σ → Bool) (I : σ → Prop) (rank : σ → ℕ) : Prop :=
  ∀ w s, I s → isOver s = false → ∃ s', step w s = some s' ∧ I s' ∧ rank s' < rank s

variable {step : ω → σ → Option σ} {isOver : σ → Bool} {I : σ → Prop} {rank : σ → ℕ}

/-- **A run with a rank ends** within it. -/
theorem run_ends (h : Descends step isOver I rank) (world : ℕ → ω) : ∀ (limit k : ℕ) (s : σ), I s → rank s ≤ limit →
    ∃ n s', run step isOver world limit k s = .done n s' ∧ n ≤ k + rank s ∧ isOver s' = true ∧ I s' := by
  intro limit
  induction limit with
  | zero =>
    intro k s hI hrank
    cases hend : isOver s with
    | true => exact ⟨k, s, by rw [run, if_pos hend], by omega, hend, hI⟩
    | false =>
      obtain ⟨s', -, -, hlt⟩ := h (world k) s hI hend
      omega
  | succ limit ih =>
    intro k s hI hrank
    cases hend : isOver s with
    | true => exact ⟨k, s, by rw [run, if_pos hend], by omega, hend, hI⟩
    | false =>
      obtain ⟨s', hs, hI', hlt⟩ := h (world k) s hI hend
      obtain ⟨n, s'', hrun, hn, hend'', hI''⟩ := ih (k + 1) s' hI' (by omega)
      refine ⟨n, s'', ?_, by omega, hend'', hI''⟩
      rw [run, hend]
      simp only [Bool.false_eq_true, if_false, hs, hrun]

end DTwin.Ranking
