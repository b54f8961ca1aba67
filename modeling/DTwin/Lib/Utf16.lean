import Mathlib.Data.List.Basic
import Mathlib.Tactic.Common

/-!
# DTwin.Lib.Utf16 — strings as sequences of UTF-16 code units, and their lines

A string of the language is a list of code units: its length is theirs, and it may hold half of a surrogate pair.
`whole` and `rest` are the lines that a stop ends and what follows the last stop; `splitOn_append` and `rest_append`
say how they go on when the text does.
-/

namespace DTwin

abbrev Utf16 := List UInt16

namespace Utf16

def newline : UInt16 := 10

def carriageReturn : UInt16 := 13

/-- White space and line terminators, which `trim` takes away. -/
def isBlank (u : UInt16) : Bool :=
  [0x9, 0xa, 0xb, 0xc, 0xd, 0x20, 0xa0, 0x1680, 0x2028, 0x2029, 0x202f, 0x205f, 0x3000, 0xfeff].contains u ||
    (0x2000 ≤ u && u ≤ 0x200a)

def trim (s : Utf16) : Utf16 := ((s.dropWhile isBlank).reverse.dropWhile isBlank).reverse

/-! ## Lines -/

section Lines

variable {α : Type*} [DecidableEq α] (stop : α)

/-- The lines of a text that a stop ends. -/
def whole (s : List α) : List (List α) := (s.splitOn stop).dropLast

/-- What follows the last stop. -/
def rest (s : List α) : List α := (s.splitOn stop).getLast (List.splitOn_ne_nil stop s)

variable {stop} {s t p q : List α}

theorem splitOn_eq (s : List α) : s.splitOn stop = whole stop s ++ [rest stop s] :=
  (List.dropLast_append_getLast (List.splitOn_ne_nil stop s)).symm

theorem whole_of_not_mem (hs : stop ∉ s) : whole stop s = [] := by
  rw [whole, List.splitOn_eq_singleton hs]
  rfl

theorem rest_of_not_mem (hs : stop ∉ s) : rest stop s = s := by
  simp only [rest, List.splitOn_eq_singleton hs, List.getLast_singleton]

theorem whole_cons (hp : stop ∉ p) (q : List α) : whole stop (p ++ stop :: q) = p :: whole stop q := by
  rw [whole, List.splitOn_append_cons_self_of_not_mem hp, List.dropLast_cons_of_ne_nil (List.splitOn_ne_nil stop q),
    whole]

theorem rest_cons (hp : stop ∉ p) (q : List α) : rest stop (p ++ stop :: q) = rest stop q := by
  simp only [rest, List.splitOn_append_cons_self_of_not_mem hp, List.getLast_cons (List.splitOn_ne_nil stop q)]

/-- A text has no stop, or begins with a line that one ends. -/
theorem stop_cases (stop : α) (s : List α) : stop ∉ s ∨ ∃ p q, stop ∉ p ∧ s = p ++ stop :: q := by
  by_cases hs : stop ∈ s
  · obtain ⟨p, q, heq, hp⟩ := List.eq_append_cons_of_mem hs
    exact Or.inr ⟨p, q, hp, heq⟩
  · exact Or.inl hs

/-- What is to be shown of a text is shown of one without a stop, and of one with a line more. -/
theorem lines_induction (stop : α) {P : List α → Prop} (hrest : ∀ s, stop ∉ s → P s)
    (hline : ∀ p q, stop ∉ p → P q → P (p ++ stop :: q)) (s : List α) : P s := by
  induction hn : s.length using Nat.strongRecOn generalizing s with
  | ind n ih =>
    rcases stop_cases stop s with hs | ⟨p, q, hp, rfl⟩
    · exact hrest s hs
    · refine hline p q hp (ih q.length ?_ q rfl)
      rw [← hn, List.length_append, List.length_cons]
      omega

theorem stop_not_mem_rest (s : List α) : stop ∉ rest stop s := by
  induction s using (lines_induction stop) with
  | hrest s hs => rwa [rest_of_not_mem hs]
  | hline p q hp ih => rwa [rest_cons hp]

/-- The lines of a text that goes on. -/
theorem splitOn_append (s t : List α) :
    (s ++ t).splitOn stop = whole stop s ++ (rest stop s ++ t).splitOn stop := by
  induction s using (lines_induction stop) with
  | hrest s hs => rw [whole_of_not_mem hs, rest_of_not_mem hs, List.nil_append]
  | hline p q hp ih =>
    rw [whole_cons hp, rest_cons hp, List.append_assoc, List.cons_append,
      List.splitOn_append_cons_self_of_not_mem hp, ih, List.cons_append]

theorem rest_append (s t : List α) : rest stop (s ++ t) = rest stop (rest stop s ++ t) := by
  induction s using (lines_induction stop) with
  | hrest s hs => rw [rest_of_not_mem hs]
  | hline p q hp ih => rw [rest_cons hp, List.append_assoc, List.cons_append, rest_cons hp, ih]

end Lines

end Utf16

end DTwin
