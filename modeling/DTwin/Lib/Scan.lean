import Mathlib.Data.List.TakeWhile
import Mathlib.Tactic.Common

/-!
# DTwin.Lib.Scan — texts cut by scanners

A scanner goes over a text token by token, with a state: `next` says how long the token at the head of a text is and in
which state it leaves the scanner.  `pieces` is what lies between the tokens that are the character `stop`.

Two scanners give the same pieces if the second one passes over the tokens of the first (`Passes`), however many of its
own tokens that takes (`pieces_eq`).
-/

namespace DTwin.Scan

variable {α σ τ : Type*} [DecidableEq α] (stop : α)

/-- The pieces of a text between the stops, with what there is of the first, and how much there still is of a token. -/
def pieces (next : σ → List α → ℕ × σ) : ℕ → σ → List α → List α → List (List α)
  | _, _, piece, [] => [piece]
  | n + 1, st, piece, c :: s => pieces next n st (piece ++ [c]) s
  | 0, st, piece, c :: s =>
    if c = stop then piece :: pieces next 0 (next st (c :: s)).2 [] s
    else pieces next ((next st (c :: s)).1 - 1) (next st (c :: s)).2 (piece ++ [c]) s

/-- Every token of a text, other than the stops, is as `P` says of it and of what follows. -/
def Every (next : σ → List α → ℕ × σ) (P : σ → List α → Prop) : ℕ → σ → List α → Prop
  | _, _, [] => True
  | n + 1, st, _ :: s => Every next P n st s
  | 0, st, c :: s =>
    if c = stop then Every next P 0 (next st (c :: s)).2 s
    else P st (c :: s) ∧ Every next P ((next st (c :: s)).1 - 1) (next st (c :: s)).2 s

instance decidableEvery (next : σ → List α → ℕ × σ) (P : σ → List α → Prop) [∀ st s, Decidable (P st s)] :
    ∀ n st s, Decidable (Every stop next P n st s)
  | _, _, [] => inferInstanceAs (Decidable True)
  | n + 1, st, _ :: s => decidableEvery next P n st s
  | 0, st, c :: s =>
    have := decidableEvery next P 0 (next st (c :: s)).2 s
    have := decidableEvery next P ((next st (c :: s)).1 - 1) (next st (c :: s)).2 s
    inferInstanceAs (Decidable (if c = stop then _ else P st (c :: s) ∧ _))

variable {stop} {next : σ → List α → ℕ × σ} {st st' st'' : σ} {t t' r : List α}

theorem pieces_skip (n : ℕ) (st : σ) (piece s : List α) :
    pieces stop next n st piece s = pieces stop next 0 st (piece ++ s.take n) (s.drop n) := by
  induction s generalizing n piece with
  | nil => rw [List.take_nil, List.drop_nil, List.append_nil, pieces, pieces]
  | cons c s ih =>
    cases n with
    | zero => rw [List.take_zero, List.append_nil, List.drop_zero]
    | succ n => rw [pieces, ih, List.take_succ_cons, List.drop_succ_cons, List.append_assoc, List.singleton_append]

theorem Every.skip {P : σ → List α → Prop} {n : ℕ} {s : List α} (h : Every stop next P n st s) :
    Every stop next P 0 st (s.drop n) := by
  induction s generalizing n with
  | nil => rw [List.drop_nil]; exact h
  | cons c s ih =>
    cases n with
    | zero => exact h
    | succ n => exact ih h

theorem pieces_stop (st : σ) (piece s : List α) :
    pieces stop next 0 st piece (stop :: s) = piece :: pieces stop next 0 (next st (stop :: s)).2 [] s := by
  rw [pieces, if_pos rfl]

theorem pieces_token {c : α} (hc : c ≠ stop) (st : σ) (piece s : List α) :
    pieces stop next 0 st piece (c :: s) =
      pieces stop next 0 (next st (c :: s)).2 (piece ++ c :: s.take ((next st (c :: s)).1 - 1))
        (s.drop ((next st (c :: s)).1 - 1)) := by
  rw [pieces, if_neg hc, pieces_skip, List.append_assoc, List.singleton_append]

variable (stop next) in
/-- From one state and into another the scanner goes over `t`, before `r`, without a stop. -/
def Passes (st : σ) (t : List α) (st' : σ) (r : List α) : Prop :=
  ∀ piece, pieces stop next 0 st piece (t ++ r) = pieces stop next 0 st' (piece ++ t) r

theorem Passes.nil (st : σ) (r : List α) : Passes stop next st [] st r := by
  intro piece
  rw [List.nil_append, List.append_nil]

theorem Passes.append (h : Passes stop next st t st' (t' ++ r)) (h' : Passes stop next st' t' st'' r) :
    Passes stop next st (t ++ t') st'' r := by
  intro piece
  rw [List.append_assoc, h, h', List.append_assoc]

/-- A token is passed over. -/
theorem Passes.token {c : α} {s : List α} {n : ℕ} (hc : c ≠ stop) (hnext : next st (c :: s) = (n, st')) :
    Passes stop next st (c :: s.take (n - 1)) st' (s.drop (n - 1)) := by
  intro piece
  rw [List.cons_append, List.take_append_drop, pieces_token hc, hnext]

/-- **Two scanners.**  If the second passes over every token of the first, they give the same pieces. -/
theorem pieces_eq {next' : τ → List α → ℕ × τ} {R : σ → τ → Prop} {P : σ → List α → Prop}
    (hstop : ∀ {st st' s}, R st st' → R (next st (stop :: s)).2 (next' st' (stop :: s)).2)
    (htoken : ∀ {st st' c s}, R st st' → c ≠ stop → P st (c :: s) → ∃ st'',
      R (next st (c :: s)).2 st'' ∧
        Passes stop next' st' (c :: s.take ((next st (c :: s)).1 - 1)) st'' (s.drop ((next st (c :: s)).1 - 1)))
    (st : σ) (st' : τ) (piece s : List α) (hR : R st st') (hP : Every stop next P 0 st s) :
    pieces stop next 0 st piece s = pieces stop next' 0 st' piece s := by
  induction hn : s.length using Nat.strong_induction_on generalizing st st' piece s with
  | _ n ih =>
    rcases s with - | ⟨c, s⟩
    · rw [pieces, pieces]
    · rw [Every] at hP
      by_cases hc : c = stop
      · subst hc
        rw [if_pos rfl] at hP
        rw [pieces_stop, pieces_stop]
        exact congrArg _ (ih s.length (by rw [← hn]; exact Nat.lt_succ_self _) _ _ _ _ (hstop hR) hP rfl)
      · rw [if_neg hc] at hP
        obtain ⟨st'', hR', hpasses⟩ := htoken hR hc hP.1
        have hgoes := hpasses piece
        rw [List.cons_append, List.take_append_drop] at hgoes
        rw [pieces_token hc, hgoes]
        refine ih _ ?_ _ _ _ _ hR' hP.2.skip rfl
        rw [← hn, List.length_drop]
        exact Nat.lt_succ_of_le (Nat.sub_le _ _)

end DTwin.Scan
