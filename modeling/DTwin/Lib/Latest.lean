import Mathlib.Order.Lattice
import Mathlib.Data.List.Nodup
import Mathlib.Tactic.Common

/-!
# DTwin.Lib.Latest — the newest of a list by a key

`IsNewest key l m`: `m` is in `l` and no key of `l` exceeds its own.  With distinct keys there is at
most one (`IsNewest.unique`), it does not depend on the order of the list (`IsNewest.perm`), and the
ways to compute it agree: the fold that keeps the newer of two (`isNewest_foldl`) and the selection
from the stored list (`isNewest_newest`).

Nothing here knows what is being dated.
-/

namespace DTwin.Latest

variable {α β : Type*}

/-- The first of the list with the largest key. -/
def newest [LT β] [DecidableLT β] (key : α → β) : List α → Option α
  | [] => none
  | a :: l =>
    match newest key l with
    | some m => if key a < key m then some m else some a
    | none => some a

variable [LinearOrder β] {key : α → β}

/-- `m` is in `l` and nothing in `l` has a larger key. -/
structure IsNewest (key : α → β) (l : List α) (m : α) : Prop where
  mem : m ∈ l
  le : ∀ a ∈ l, key a ≤ key m

/-- With distinct keys the newest is unique. -/
theorem IsNewest.unique {l : List α} (hn : (l.map key).Nodup) {m m' : α} (h : IsNewest key l m)
    (h' : IsNewest key l m') : m = m' :=
  List.inj_on_of_nodup_map hn h.mem h'.mem (le_antisymm (h'.le m h.mem) (h.le m' h'.mem))

/-- The newest does not depend on the order. -/
theorem IsNewest.perm {l l' : List α} {m : α} (h : IsNewest key l m) (hp : l.Perm l') :
    IsNewest key l' m :=
  ⟨hp.mem_iff.mp h.mem, fun a ha => h.le a (hp.mem_iff.mpr ha)⟩

theorem IsNewest.map {γ : Type*} {key' : γ → β} {f : α → γ} (hf : ∀ a, key' (f a) = key a)
    {l : List α} {m : α} (h : IsNewest key l m) : IsNewest key' (l.map f) (f m) := by
  refine ⟨List.mem_map_of_mem h.mem, fun c hc => ?_⟩
  obtain ⟨a, ha, rfl⟩ := List.mem_map.mp hc
  rw [hf, hf]
  exact h.le a ha

/-- The newest of the part above a bound is the newest of all, when that is above it. -/
theorem IsNewest.of_filter {l : List α} {p : α → Bool} {m : α} (hp : ∀ a ∈ l, key m ≤ key a → p a)
    (h : IsNewest key (l.filter p) m) : IsNewest key l m := by
  refine ⟨(List.mem_filter.mp h.mem).1, fun a ha => ?_⟩
  rcases le_total (key a) (key m) with hle | hle
  · exact hle
  · exact h.le a (List.mem_filter.mpr ⟨ha, hp a ha hle⟩)

/-- Keep the newer of two, the incoming one on a tie. -/
def keep (key : α → β) (held : Option α) (incoming : α) : Option α :=
  match held with
  | some h => if key incoming < key h then some h else some incoming
  | none => some incoming

variable (key) in
theorem keep_spec (held : Option α) (incoming : α) :
    ∃ m, keep key held incoming = some m ∧ (m = incoming ∨ held = some m) ∧
      key incoming ≤ key m ∧ ∀ h ∈ held, key h ≤ key m := by
  cases held with
  | none => exact ⟨incoming, rfl, Or.inl rfl, le_rfl, nofun⟩
  | some h =>
    by_cases hlt : key incoming < key h
    · exact ⟨h, by simp [keep, hlt], Or.inr rfl, hlt.le, by simp⟩
    · exact ⟨incoming, by simp [keep, hlt], Or.inl rfl, le_rfl, by simpa using hlt⟩

variable (key) in
/-- The fold over `l`, from what is already held. -/
theorem foldl_keep_spec : ∀ (l : List α) (held : Option α),
    (held = none → l = [] → l.foldl (keep key) held = none) ∧
    ((held.toList ++ l) ≠ [] → ∃ m, l.foldl (keep key) held = some m ∧
      IsNewest key (held.toList ++ l) m)
  | [], held => by
    refine ⟨fun hh _ => hh, ?_⟩
    cases held with
    | none => simp
    | some h => exact fun _ => ⟨h, rfl, by simp, by simp⟩
  | a :: l, held => by
    refine ⟨by simp, fun _ => ?_⟩
    obtain ⟨m, hm, hsrc, hle, hheld⟩ := keep_spec key held a
    obtain ⟨n, hn, hnew⟩ := (foldl_keep_spec l (some m)).2 (by simp)
    have hmn : key m ≤ key n := hnew.le m (by simp)
    refine ⟨n, by rw [List.foldl_cons, hm, hn], ?_, ?_⟩
    · have hmem : n = m ∨ n ∈ l := by simpa using hnew.mem
      rcases hmem with rfl | hmem
      · rcases hsrc with rfl | rfl <;> simp
      · simp [hmem]
    · intro b hb
      rcases List.mem_append.mp hb with hb | hb
      · exact (hheld b (by simpa using hb)).trans hmn
      · rcases List.mem_cons.mp hb with rfl | hb
        · exact hle.trans hmn
        · exact hnew.le b (by simp [hb])

theorem isNewest_foldl {l : List α} {m : α} (h : l.foldl (keep key) none = some m) :
    IsNewest key l m := by
  have hne : l ≠ [] := by
    rintro rfl
    cases h
  obtain ⟨n, hn, hnew⟩ := (foldl_keep_spec key l none).2 (by simpa using hne)
  obtain rfl : n = m := Option.some.inj (hn.symm.trans h)
  simpa using hnew

theorem foldl_keep_eq_none {l : List α} : l.foldl (keep key) none = none ↔ l = [] := by
  constructor
  · intro h
    by_contra hne
    obtain ⟨m, hm, -⟩ := (foldl_keep_spec key l none).2 (by simpa using hne)
    rw [hm] at h
    cases h
  · rintro rfl
    rfl

theorem newest_eq_none {l : List α} : newest key l = none ↔ l = [] := by
  cases l with
  | nil => simp [newest]
  | cons a l =>
    simp only [newest, reduceCtorEq, iff_false]
    split
    · split <;> simp
    · simp

theorem isNewest_newest : ∀ {l : List α} {m : α}, newest key l = some m → IsNewest key l m
  | [], _, h => by cases h
  | a :: l, m, h => by
    rw [newest] at h
    cases hl : newest key l with
    | none =>
      obtain rfl : l = [] := newest_eq_none.mp hl
      rw [hl] at h
      obtain rfl : a = m := Option.some.inj h
      exact ⟨by simp, by simp⟩
    | some n =>
      have ih : IsNewest key l n := isNewest_newest hl
      rw [hl] at h
      by_cases hlt : key a < key n
      · obtain rfl : n = m := by simpa [hlt] using h
        refine ⟨List.mem_cons_of_mem a ih.mem, fun b hb => ?_⟩
        rcases List.mem_cons.mp hb with rfl | hb
        · exact hlt.le
        · exact ih.le b hb
      · obtain rfl : a = m := by simpa [hlt] using h
        refine ⟨by simp, fun b hb => ?_⟩
        rcases List.mem_cons.mp hb with rfl | hb
        · exact le_rfl
        · exact (ih.le b hb).trans (not_lt.mp hlt)

end DTwin.Latest
