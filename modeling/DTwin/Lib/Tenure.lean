import Mathlib.Data.List.Basic
import Mathlib.Tactic.Common

/-!
# DTwin.Lib.Tenure — what stands after a history

A history is a list of events.  An event may begin a tenure (`begins`), and what happens to a tenure at an event is
`acts`: it goes on, perhaps changed, or it ends.  `standing` is the list of the tenures that stand after a history, in
the order of their beginning:

* `mem_standing_iff`: a tenure stands exactly when an event began it and the events after that one let it stand;
* `standing_append`, `standing_concat`: how the list grows, so a table that each event changes as it changes `standing`
  is `standing` of the history;
* `after_invariant`: what a tenure keeps.

Nothing here knows what the events are.
-/

namespace DTwin.Tenure

variable {β τ : Type*} (begins : β → Option τ) (acts : β → τ → Option τ)

/-- What is left of a tenure after some events. -/
def after : List β → τ → Option τ
  | [], t => some t
  | x :: h, t => (acts x t).bind (after h)

/-- The tenures that stand after a history. -/
def standing : List β → List τ
  | [] => []
  | x :: h => ((begins x).bind (after acts h)).toList ++ standing h

variable {begins acts}

@[simp] theorem after_nil (t : τ) : after acts [] t = some t := rfl

@[simp] theorem after_cons (x : β) (h : List β) (t : τ) : after acts (x :: h) t = (acts x t).bind (after acts h) := rfl

theorem after_append (h o : List β) (t : τ) : after acts (h ++ o) t = (after acts h t).bind (after acts o) := by
  induction h generalizing t with
  | nil => rfl
  | cons x h ih =>
    simp only [List.cons_append, after_cons, Option.bind_assoc]
    exact Option.bind_congr fun t' _ => ih t'

@[simp] theorem standing_nil : standing begins acts [] = [] := rfl

/-- A tenure stands exactly when it was begun and nothing after that has ended it. -/
theorem mem_standing_iff {h : List β} {t : τ} :
    t ∈ standing begins acts h ↔
      ∃ h₁ x h₂ t₀, h = h₁ ++ x :: h₂ ∧ begins x = some t₀ ∧ after acts h₂ t₀ = some t := by
  induction h with
  | nil =>
    constructor
    · exact fun ht => absurd ht List.not_mem_nil
    · rintro ⟨h₁, x, h₂, t₀, heq, -⟩
      exact absurd heq.symm (List.append_ne_nil_of_right_ne_nil h₁ (List.cons_ne_nil x h₂))
  | cons y h ih =>
    simp only [standing, List.mem_append, Option.mem_toList, Option.bind_eq_some_iff, ih]
    constructor
    · rintro (⟨t₀, hbegins, hafter⟩ | ⟨h₁, x, h₂, t₀, rfl, hbegins, hafter⟩)
      · exact ⟨[], y, h, t₀, rfl, hbegins, hafter⟩
      · exact ⟨y :: h₁, x, h₂, t₀, rfl, hbegins, hafter⟩
    · rintro ⟨h₁, x, h₂, t₀, heq, hbegins, hafter⟩
      cases h₁ with
      | nil =>
        obtain ⟨rfl, rfl⟩ := List.cons.inj heq
        exact Or.inl ⟨t₀, hbegins, hafter⟩
      | cons z h₁ =>
        obtain ⟨rfl, rfl⟩ := List.cons.inj heq
        exact Or.inr ⟨h₁, x, h₂, t₀, rfl, hbegins, hafter⟩

/-- The events of `o` act on what stood, and begin tenures of their own. -/
theorem standing_append (h o : List β) :
    standing begins acts (h ++ o) = (standing begins acts h).filterMap (after acts o) ++ standing begins acts o := by
  induction h with
  | nil => rfl
  | cons x h ih =>
    have hhead : ((begins x).bind (after acts (h ++ o))).toList =
        ((begins x).bind (after acts h)).toList.filterMap (after acts o) := by
      cases begins x with
      | none => rfl
      | some t =>
        rw [Option.bind_some, Option.bind_some, after_append]
        cases after acts h t with
        | none => rfl
        | some t' => simp [List.filterMap_cons, Option.toList]; cases after acts o t' <;> rfl
    rw [List.cons_append, standing, hhead, ih, standing, List.filterMap_append, List.append_assoc]

theorem standing_concat (h : List β) (x : β) :
    standing begins acts (h ++ [x]) = (standing begins acts h).filterMap (acts x) ++ (begins x).toList := by
  have hafter : after acts [x] = acts x := by
    funext t
    rw [after_cons]
    cases acts x t <;> rfl
  have hbegun : standing begins acts [x] = (begins x).toList := by
    rw [standing, standing_nil, List.append_nil]
    cases begins x <;> rfl
  rw [standing_append, hafter, hbegun]

/-- An event that ends the tenures in `p`. -/
theorem filterMap_ending (p : τ → Prop) [DecidablePred p] (l : List τ) :
    (l.filterMap fun t => if p t then none else some t) = l.filter fun t => ¬ p t := by
  rw [← List.filterMap_eq_filter]
  refine List.filterMap_congr fun t _ => ?_
  by_cases hp : p t
  · simp [Option.guard, hp]
  · simp [Option.guard, hp]

/-- A tenure goes through every event of `h`. -/
theorem exists_acts_of_mem {h : List β} {t t' : τ} {x : β} (ht : after acts h t = some t') (hx : x ∈ h) :
    ∃ h₁ h₂ t₁ t₂, h = h₁ ++ x :: h₂ ∧ after acts h₁ t = some t₁ ∧ acts x t₁ = some t₂ ∧
      after acts h₂ t₂ = some t' := by
  obtain ⟨h₁, h₂, rfl⟩ := List.append_of_mem hx
  rw [after_append] at ht
  obtain ⟨t₁, ht₁, hrest⟩ := Option.bind_eq_some_iff.mp ht
  obtain ⟨t₂, ht₂, hend⟩ := Option.bind_eq_some_iff.mp hrest
  exact ⟨h₁, h₂, t₁, t₂, rfl, ht₁, ht₂, hend⟩

/-- A measure that no event changes. -/
theorem after_invariant {γ : Type*} (f : τ → γ) (hacts : ∀ x t t', acts x t = some t' → f t' = f t) {h : List β}
    {t t' : τ} (ht : after acts h t = some t') : f t' = f t := by
  induction h generalizing t with
  | nil => rw [Option.some.inj ht]
  | cons x h ih =>
    obtain ⟨t₁, ht₁, hrest⟩ := Option.bind_eq_some_iff.mp ht
    exact (ih hrest).trans (hacts x t t₁ ht₁)

end DTwin.Tenure
