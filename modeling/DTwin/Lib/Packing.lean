import Mathlib.Algebra.BigOperators.Group.List.Basic
import Mathlib.Algebra.GroupWithZero.Nat
import Mathlib.Data.List.Nodup
import Mathlib.Data.List.Sort
import Mathlib.Tactic.Common

/-!
# DTwin.Lib.Packing — taking what fits, one after the other

`pack size room l` takes each element of `l` in turn if it fits in the room that those taken before have left.

* All of a list is taken exactly if it fits as a whole (`pack_eq_self_iff`), nothing exactly if nothing in it fits
  (`pack_eq_nil_iff`), and of two lists one after the other the second has the room that the first leaves
  (`pack_append`).
* `cost`: what is paid for a list if what is not taken is paid for otherwise.

`insertionSort_split`: an order that puts some elements before all others, on a list.
-/

namespace DTwin.Packing

variable {α κ : Type*}

/-! ## Packing -/

section Pack

variable (size : α → ℕ)

def pack : ℕ → List α → List α
  | _, [] => []
  | room, a :: l => if size a ≤ room then a :: pack (room - size a) l else pack room l

/-- The room that is left. -/
def left (room : ℕ) (l : List α) : ℕ := room - ((pack size room l).map size).sum

variable {size} {room : ℕ} {a : α} {l l' : List α}

theorem pack_cons_pos (h : size a ≤ room) : pack size room (a :: l) = a :: pack size (room - size a) l := if_pos h

theorem pack_cons_neg (h : ¬ size a ≤ room) : pack size room (a :: l) = pack size room l := if_neg h

theorem pack_sublist : ∀ (room : ℕ) (l : List α), (pack size room l).Sublist l
  | _, [] => List.Sublist.refl _
  | room, a :: l => by
    by_cases h : size a ≤ room
    · rw [pack_cons_pos h]
      exact (pack_sublist (room - size a) l).cons_cons a
    · rw [pack_cons_neg h]
      exact (pack_sublist room l).cons a

theorem sum_pack_le : ∀ (room : ℕ) (l : List α), ((pack size room l).map size).sum ≤ room
  | _, [] => Nat.zero_le _
  | room, a :: l => by
    by_cases h : size a ≤ room
    · have hrest := sum_pack_le (room - size a) l
      rw [pack_cons_pos h, List.map_cons, List.sum_cons]
      omega
    · rw [pack_cons_neg h]
      exact sum_pack_le room l

theorem pack_append : ∀ (room : ℕ) (l l' : List α),
    pack size room (l ++ l') = pack size room l ++ pack size (left size room l) l'
  | room, [], l' => rfl
  | room, a :: l, l' => by
    by_cases h : size a ≤ room
    · have hleft : left size room (a :: l) = left size (room - size a) l := by
        rw [left, left, pack_cons_pos h, List.map_cons, List.sum_cons, Nat.sub_sub]
      rw [List.cons_append, pack_cons_pos h, pack_cons_pos h, pack_append (room - size a) l l', hleft]
      rfl
    · have hleft : left size room (a :: l) = left size room l := by rw [left, left, pack_cons_neg h]
      rw [List.cons_append, pack_cons_neg h, pack_cons_neg h, pack_append room l l', hleft]

/-- **All is taken** exactly if all fits together. -/
theorem pack_eq_self_iff : pack size room l = l ↔ (l.map size).sum ≤ room := by
  constructor
  · intro hall
    have hsum : ((pack size room l).map size).sum ≤ room := sum_pack_le room l
    rwa [hall] at hsum
  · intro hsum
    induction l generalizing room with
    | nil => rfl
    | cons a l ih =>
      rw [List.map_cons, List.sum_cons] at hsum
      rw [pack_cons_pos (by omega), ih (by omega)]

/-- **Nothing is taken** exactly if nothing fits. -/
theorem pack_eq_nil_iff : pack size room l = [] ↔ ∀ a ∈ l, room < size a := by
  induction l with
  | nil => simp [pack]
  | cons a l ih =>
    rw [List.forall_mem_cons]
    by_cases h : size a ≤ room
    · rw [pack_cons_pos h]
      simp only [List.cons_ne_nil, false_iff, not_and]
      omega
    · rw [pack_cons_neg h, ih]
      simp only [iff_and_self]
      omega

end Pack

/-! ## What is paid -/

section Cost

variable (whole part : α → ℕ)

/-- What is taken is paid for whole, the rest in part. -/
def cost : ℕ → List α → ℕ
  | _, [] => 0
  | room, a :: l => if whole a ≤ room then whole a + cost (room - whole a) l else part a + cost room l

variable {whole part} [DecidableEq κ] {id : α → κ}

/-- If all fits together, all is paid for whole. -/
theorem cost_of_fit {room : ℕ} {l : List α} (h : (l.map whole).sum ≤ room) :
    cost whole part room l = (l.map whole).sum := by
  induction l generalizing room with
  | nil => rfl
  | cons a l ih =>
    rw [List.map_cons, List.sum_cons] at h ⊢
    rw [cost, if_pos (by omega), ih (by omega)]

/-- The elements told apart by their ids, the cost is the sum over them. -/
theorem sum_eq_cost : ∀ (room : ℕ) (l : List α), (l.map id).Nodup →
    (l.map fun a => if id a ∈ (pack whole room l).map id then whole a else part a).sum = cost whole part room l
  | _, [], _ => rfl
  | room, a :: l, hl => by
    obtain ⟨hnew, hrest⟩ := List.nodup_cons.mp hl
    rw [List.map_cons, List.sum_cons, cost]
    by_cases h : whole a ≤ room
    · have hothers : (l.map fun b => if id b ∈ (pack whole room (a :: l)).map id then whole b else part b) =
          l.map fun b => if id b ∈ (pack whole (room - whole a) l).map id then whole b else part b := by
        refine List.map_congr_left fun b hb => ?_
        have hne : id b ≠ id a := fun heq => hnew (heq ▸ List.mem_map_of_mem hb)
        rw [pack_cons_pos h, List.map_cons]
        simp only [List.mem_cons, hne, false_or]
      have hself : id a ∈ (pack whole room (a :: l)).map id := by
        rw [pack_cons_pos h]
        exact List.mem_cons_self
      rw [if_pos h, if_pos hself, hothers, sum_eq_cost (room - whole a) l hrest]
    · have hself : id a ∉ (pack whole room (a :: l)).map id := by
        rw [pack_cons_neg h]
        exact fun hmem => hnew (((pack_sublist room l).map id).subset hmem)
      rw [if_neg h, if_neg hself, pack_cons_neg h, sum_eq_cost room l hrest]

end Cost

/-! ## Some before the others -/

section Order

variable {r : α → α → Prop} [DecidableRel r] {p : α → Bool}

theorem orderedInsert_append_left {a : α} {l' : List α} (h : ∀ b ∈ l', r a b) : ∀ l : List α,
    (l ++ l').orderedInsert r a = l.orderedInsert r a ++ l'
  | [] => by
    cases l' with
    | nil => rfl
    | cons b l' =>
      have hb : r a b := h b List.mem_cons_self
      exact List.orderedInsert_cons_of_le r l' hb
  | b :: l => by
    rw [List.cons_append, List.orderedInsert, List.orderedInsert]
    by_cases hb : r a b
    · rw [if_pos hb, if_pos hb]
      rfl
    · rw [if_neg hb, if_neg hb, orderedInsert_append_left h l]
      rfl

theorem orderedInsert_append_right {a : α} {l' : List α} : ∀ l : List α, (∀ b ∈ l, ¬ r a b) →
    (l ++ l').orderedInsert r a = l ++ l'.orderedInsert r a
  | [], _ => rfl
  | b :: l, h => by
    rw [List.cons_append, List.orderedInsert, if_neg (h b List.mem_cons_self),
      orderedInsert_append_right l fun c hc => h c (List.mem_cons_of_mem _ hc)]
    rfl

theorem orderedInsert_head {a : α} {l : List α} (h : ∀ b ∈ l, r a b) : l.orderedInsert r a = a :: l := by
  cases l with
  | nil => rfl
  | cons b l => rw [List.orderedInsert, if_pos (h b List.mem_cons_self)]

/-- **An order that tells nothing among some**, and puts them before all others, leaves them as they are. -/
theorem insertionSort_split (hamong : ∀ a b, p a → p b → r a b) (hbefore : ∀ a b, p a → ¬ p b → r a b)
    (hafter : ∀ a b, ¬ p a → p b → ¬ r a b) : ∀ l : List α,
    l.insertionSort r = l.filter p ++ (l.filter fun a => !p a).insertionSort r
  | [] => rfl
  | a :: l => by
    have hrest := insertionSort_split hamong hbefore hafter l
    rw [List.insertionSort_cons, hrest]
    by_cases ha : p a = true
    · have hlater : ∀ b ∈ (l.filter fun a => !p a).insertionSort r, r a b := by
        intro b hb
        have hnot := (List.mem_filter.mp ((List.mem_insertionSort r).mp hb)).2
        exact hbefore a b ha (by simpa using hnot)
      have hsame : ∀ b ∈ l.filter p, r a b := fun b hb => hamong a b ha (List.mem_filter.mp hb).2
      rw [orderedInsert_append_left hlater, orderedInsert_head hsame, List.filter_cons_of_pos ha,
        List.filter_cons_of_neg (by simpa using ha)]
    · have hearlier : ∀ b ∈ l.filter p, ¬ r a b := fun b hb => hafter a b ha (List.mem_filter.mp hb).2
      rw [orderedInsert_append_right _ hearlier, List.filter_cons_of_neg ha,
        List.filter_cons_of_pos (by simpa using ha), List.insertionSort_cons]

end Order

end DTwin.Packing
