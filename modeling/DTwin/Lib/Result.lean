import Mathlib.Data.List.Forall2
import Mathlib.Tactic.Common

/-!
# DTwin.Lib.Result — computations that may fail

What an `Except` computation that succeeds was made of: `bind_eq_ok`, `map_eq_ok`, and `mapM_eq_ok` for one of them
on each element of a list; and `mapM_eq_some` for those that only yield or not.
-/

namespace DTwin.Result

variable {ε α β : Type}

theorem bind_eq_ok {x : Except ε α} {f : α → Except ε β} {b : β} : x >>= f = .ok b ↔ ∃ a, x = .ok a ∧ f a = .ok b := by
  cases x with
  | error e => simp [bind, Except.bind]
  | ok a => simp [bind, Except.bind]

theorem map_eq_ok {x : Except ε α} {f : α → β} {b : β} : x.map f = .ok b ↔ ∃ a, x = .ok a ∧ f a = b := by
  cases x with
  | error e => simp [Except.map]
  | ok a => simp [Except.map]

theorem mapM_eq_ok {f : α → Except ε β} : ∀ {l : List α} {l' : List β},
    l.mapM f = .ok l' ↔ List.Forall₂ (fun a b => f a = .ok b) l l'
  | [], l' => by simp [pure, Except.pure, eq_comm]
  | a :: l, l' => by
    simp only [List.mapM_cons, bind_eq_ok, mapM_eq_ok, pure, Except.pure, Except.ok.injEq]
    constructor
    · rintro ⟨b, hb, l', hl, rfl⟩
      exact .cons hb hl
    · intro h
      cases h with
      | cons hb hl => exact ⟨_, hb, _, hl, rfl⟩

theorem mapM_eq_some {f : α → Option β} : ∀ {l : List α} {l' : List β},
    l.mapM f = some l' ↔ List.Forall₂ (fun a b => f a = some b) l l'
  | [], l' => by simp [eq_comm]
  | a :: l, l' => by
    simp only [List.mapM_cons, Option.bind_eq_bind, Option.bind_eq_some_iff, mapM_eq_some, Option.pure_def,
      Option.some.injEq]
    constructor
    · rintro ⟨b, hb, l', hl, rfl⟩
      exact .cons hb hl
    · intro h
      cases h with
      | cons hb hl => exact ⟨_, hb, _, hl, rfl⟩

theorem exists_mapM {f : α → Option β} {l : List α} (h : ∀ a ∈ l, ∃ b, f a = some b) : ∃ l', l.mapM f = some l' := by
  induction l with
  | nil => exact ⟨[], rfl⟩
  | cons a l ih =>
    obtain ⟨b, hb⟩ := h a List.mem_cons_self
    obtain ⟨l', hl⟩ := ih fun a ha => h a (List.mem_cons_of_mem _ ha)
    exact ⟨b :: l', mapM_eq_some.mpr (.cons hb (mapM_eq_some.mp hl))⟩

/-- What stands in the second of two related lists stands beside something in the first. -/
theorem exists_of_mem_right {R : α → β → Prop} {l : List α} {l' : List β} (h : List.Forall₂ R l l') {b : β}
    (hb : b ∈ l') : ∃ a ∈ l, R a b := by
  induction h with
  | nil => cases hb
  | @cons a b' l l' hab _ ih =>
    obtain rfl | hb := List.mem_cons.mp hb
    · exact ⟨a, List.mem_cons_self, hab⟩
    · obtain ⟨a', ha', hR⟩ := ih hb
      exact ⟨a', List.mem_cons_of_mem a ha', hR⟩

end DTwin.Result
