import Mathlib.Data.List.Dedup
import Mathlib.Data.List.Perm.Subperm
import Mathlib.Logic.Relation
import Mathlib.Tactic.Common

/-!
# DTwin.Lib.Recursive — recursive queries

`WITH RECURSIVE` as a database evaluates it: the rows of the first term are the result and the working table; then the
second term is evaluated over the working table, row by row (`next`), and what it gives is added to the result and is
the next working table, until that is empty.  `UNION` leaves out every row that has come before, `UNION ALL` leaves
out none.

* `union_spec`: over a finite set of rows closed under `next` a `UNION` ends, cycle or no cycle, and gives each row that
  is reached once;
* `unionAll_spec`: where `next` counts down a measure a `UNION ALL` ends, and gives the rows level by level.

Nothing here knows what the rows are.
-/

namespace DTwin.Recursive

open Relation

variable {α : Type*}

/-! ## UNION -/

/-- The rows reached from the seed. -/
def Reached (next : α → List α) (seed : List α) (x : α) : Prop := ∃ s ∈ seed, ReflTransGen (fun a b => b ∈ next a) s x

/-- What holds each time round: the rows that are not in the working table have had their turn. -/
structure Progress (next : α → List α) (seed result working : List α) : Prop where
  nodup : result.Nodup
  seeded : ∀ x ∈ seed, x ∈ result
  sound : ∀ x ∈ result, Reached next seed x
  sub : ∀ x ∈ working, x ∈ result
  closed : ∀ x ∈ result, x ∉ working → ∀ y ∈ next x, y ∈ result

section

variable {next : α → List α} {seed result working : List α}

theorem Progress.done (hP : Progress next seed result []) {x : α} : x ∈ result ↔ Reached next seed x := by
  constructor
  · exact hP.sound x
  · rintro ⟨s, hs, hreach⟩
    induction hreach with
    | refl => exact hP.seeded s hs
    | tail _ hstep ih => exact hP.closed _ ih List.not_mem_nil _ hstep

variable [DecidableEq α] (next)

/-- What is new in the second term. -/
def fresh (result working : List α) : List α := ((working.flatMap next).dedup).filter (· ∉ result)

/-- The loop of a `UNION`; `none` where the fuel runs out. -/
def unionLoop : ℕ → List α → List α → Option (List α)
  | _, result, [] => some result
  | 0, _, _ :: _ => none
  | n + 1, result, w :: ws => unionLoop n (result ++ fresh next result (w :: ws)) (fresh next result (w :: ws))

def union (fuel : ℕ) (seed : List α) : Option (List α) := unionLoop next fuel seed.dedup seed.dedup

variable {next}

theorem mem_fresh {result working : List α} {x : α} :
    x ∈ fresh next result working ↔ (∃ w ∈ working, x ∈ next w) ∧ x ∉ result := by
  simp [fresh, List.mem_filter, List.mem_dedup, List.mem_flatMap]

theorem nodup_append_fresh {result working : List α} (h : result.Nodup) :
    (result ++ fresh next result working).Nodup := by
  refine h.append ((List.nodup_dedup _).filter _) fun x hx hfresh => ?_
  exact (mem_fresh.mp hfresh).2 hx

theorem Progress.round (hP : Progress next seed result working) :
    Progress next seed (result ++ fresh next result working) (fresh next result working) where
  nodup := nodup_append_fresh hP.nodup
  seeded x hx := List.mem_append_left _ (hP.seeded x hx)
  sound x hx := by
    rcases List.mem_append.mp hx with hx | hx
    · exact hP.sound x hx
    · obtain ⟨⟨w, hw, hnext⟩, -⟩ := mem_fresh.mp hx
      obtain ⟨s, hs, hreach⟩ := hP.sound w (hP.sub w hw)
      exact ⟨s, hs, hreach.tail hnext⟩
  sub x hx := List.mem_append_right _ hx
  closed x hx hnot y hy := by
    have hold : x ∈ result := (List.mem_append.mp hx).resolve_right hnot
    rw [List.mem_append]
    by_cases hw : x ∈ working
    · by_cases hyold : y ∈ result
      · exact Or.inl hyold
      · exact Or.inr (mem_fresh.mpr ⟨⟨x, hw, hy⟩, hyold⟩)
    · exact Or.inl (hP.closed x hold hw y hy)

/-- Every round adds to the result, which fits in `V`. -/
theorem unionLoop_spec {V : List α} (hV : ∀ x ∈ V, ∀ y ∈ next x, y ∈ V) : ∀ (fuel : ℕ) (result working : List α),
    Progress next seed result working → (∀ x ∈ result, x ∈ V) → V.length < fuel + result.length →
      ∃ r, unionLoop next fuel result working = some r ∧ r.Nodup ∧ ∀ x, x ∈ r ↔ Reached next seed x
  | fuel, result, [], hP, _, _ => ⟨result, by cases fuel <;> rfl, hP.nodup, fun _ => hP.done⟩
  | 0, result, w :: ws, hP, hsub, hfuel => by
    have hle := (hP.nodup.subperm hsub).length_le
    omega
  | fuel + 1, result, w :: ws, hP, hsub, hfuel => by
    have hsub' : ∀ x ∈ result ++ fresh next result (w :: ws), x ∈ V := by
      intro x hx
      rcases List.mem_append.mp hx with hx | hx
      · exact hsub x hx
      · obtain ⟨⟨w', hw', hnext⟩, -⟩ := mem_fresh.mp hx
        exact hV w' (hsub w' (hP.sub w' hw')) x hnext
    rw [unionLoop]
    cases hfresh : fresh next result (w :: ws) with
    | nil =>
      have hround := hP.round
      rw [hfresh, List.append_nil] at hround
      rw [List.append_nil]
      exact ⟨result, by cases fuel <;> rfl, hround.nodup, fun _ => hround.done⟩
    | cons y ys =>
      rw [← hfresh]
      refine unionLoop_spec hV fuel _ _ hP.round hsub' ?_
      rw [List.length_append, hfresh, List.length_cons]
      omega

theorem progress_seed (next : α → List α) (seed : List α) : Progress next seed seed.dedup seed.dedup where
  nodup := List.nodup_dedup seed
  seeded _ hx := List.mem_dedup.mpr hx
  sound x hx := ⟨x, List.mem_dedup.mp hx, .refl⟩
  sub _ hx := hx
  closed _ hx hnot := absurd hx hnot

/-- **A `UNION` ends**, and gives each row that is reached once. -/
theorem union_spec {V : List α} (hV : ∀ x ∈ V, ∀ y ∈ next x, y ∈ V) (hseed : ∀ x ∈ seed, x ∈ V) {fuel : ℕ}
    (hfuel : V.length < fuel) :
    ∃ r, union next fuel seed = some r ∧ r.Nodup ∧ ∀ x, x ∈ r ↔ Reached next seed x :=
  unionLoop_spec hV fuel _ _ (progress_seed next seed) (fun x hx => hseed x (List.mem_dedup.mp hx)) (by omega)

end

/-! ## UNION ALL -/

variable (next : α → List α)

/-- The loop of a `UNION ALL`. -/
def unionAllLoop : ℕ → List α → List α → Option (List α)
  | _, result, [] => some result
  | 0, _, _ :: _ => none
  | n + 1, result, w :: ws => unionAllLoop n (result ++ (w :: ws).flatMap next) ((w :: ws).flatMap next)

def unionAll (fuel : ℕ) (seed : List α) : Option (List α) := unionAllLoop next fuel seed seed

/-- The rows after `k` rounds. -/
def level : ℕ → List α → List α
  | 0, l => l
  | k + 1, l => level k (l.flatMap next)

variable {next}

theorem level_nil (k : ℕ) : level next k [] = [] := by
  induction k with
  | zero => rfl
  | succ k ih => exact ih

theorem level_append (k : ℕ) (l m : List α) : level next k (l ++ m) = level next k l ++ level next k m := by
  induction k generalizing l m with
  | zero => rfl
  | succ k ih => rw [level, List.flatMap_append, ih]; rfl

theorem level_eq_flatMap (k : ℕ) : ∀ l : List α, level next k l = l.flatMap fun a => level next k [a]
  | [] => level_nil k
  | a :: l => by
    rw [show a :: l = [a] ++ l from rfl, level_append, level_eq_flatMap k l, List.flatMap_append]
    rw [List.flatMap_cons, List.flatMap_nil, List.append_nil]

/-- The last round. -/
theorem level_succ (k : ℕ) : ∀ l : List α, level next (k + 1) l = (level next k l).flatMap next := by
  induction k with
  | zero => exact fun _ => rfl
  | succ k ih => exact fun l => ih (l.flatMap next)

/-- Rows that keep what they began with. -/
theorem filter_level {κ : Type*} [DecidableEq κ] {key : α → κ} (hkey : ∀ x, ∀ y ∈ next x, key y = key x) (b : κ)
    (k : ℕ) : ∀ l : List α, (level next k l).filter (key · = b) = level next k (l.filter (key · = b)) := by
  have hnext : ∀ l : List α, (l.flatMap next).filter (key · = b) = (l.filter (key · = b)).flatMap next := by
    intro l
    induction l with
    | nil => rfl
    | cons a l ih =>
      rw [List.flatMap_cons, List.filter_append, ih, List.filter_cons]
      by_cases ha : key a = b
      · rw [if_pos (decide_eq_true ha), List.flatMap_cons]
        congr 1
        exact List.filter_eq_self.mpr fun y hy => decide_eq_true ((hkey a y hy).trans ha)
      · rw [if_neg (by simpa using ha)]
        have hnone : (next a).filter (key · = b) = [] :=
          List.filter_eq_nil_iff.mpr fun y hy => by simpa [hkey a y hy] using ha
        rw [hnone, List.nil_append]
  induction k with
  | zero => exact fun _ => rfl
  | succ k ih => exact fun l => by rw [level, ih, hnext]; rfl

/-- Rows are reached one by one. -/
theorem mem_level_iff {k : ℕ} {l : List α} {x : α} : x ∈ level next k l ↔ ∃ a ∈ l, x ∈ level next k [a] := by
  induction k generalizing l with
  | zero => simp [level]
  | succ k ih =>
    simp only [level, List.flatMap_cons, List.flatMap_nil, List.append_nil]
    rw [ih]
    constructor
    · rintro ⟨b, hb, hx⟩
      obtain ⟨a, ha, hab⟩ := List.mem_flatMap.mp hb
      exact ⟨a, ha, ih.mpr ⟨b, hab, hx⟩⟩
    · rintro ⟨a, ha, hx⟩
      obtain ⟨b, hb, hx⟩ := ih.mp hx
      exact ⟨b, List.mem_flatMap.mpr ⟨a, ha, hb⟩, hx⟩

/-- All levels up to a bound. -/
def levels (next : α → List α) (n : ℕ) (l : List α) : List α := (List.range n).flatMap fun k => level next k l

theorem levels_succ (n : ℕ) (l : List α) : levels next (n + 1) l = l ++ levels next n (l.flatMap next) := by
  rw [levels, List.range_succ_eq_map, List.flatMap_cons, List.flatMap_map]
  rfl

theorem filter_levels {κ : Type*} [DecidableEq κ] {key : α → κ} (hkey : ∀ x, ∀ y ∈ next x, key y = key x) (b : κ)
    (n : ℕ) (l : List α) : (levels next n l).filter (key · = b) = levels next n (l.filter (key · = b)) := by
  rw [levels, List.filter_flatMap]
  exact List.flatMap_congr fun k _ => filter_level hkey b k l

theorem levels_nil (n : ℕ) : levels next n [] = [] := by simp [levels, level_nil]

/-- Where every row of the working table measures below `n`, `n` rounds are enough. -/
theorem unionAllLoop_spec {μ : α → ℕ} (hμ : ∀ x, ∀ y ∈ next x, μ y < μ x) : ∀ (n fuel : ℕ) (result working : List α),
    (∀ x ∈ working, μ x < n) → n ≤ fuel →
      unionAllLoop next fuel result working = some (result ++ levels next n (working.flatMap next))
  | n, fuel, result, [], _, _ => by
    rw [List.flatMap_nil, levels_nil, List.append_nil]
    cases fuel <;> rfl
  | 0, _, _, w :: ws, hn, _ => absurd (hn w List.mem_cons_self) (Nat.not_lt_zero _)
  | n + 1, 0, _, _, _, hfuel => absurd hfuel (Nat.not_succ_le_zero n)
  | n + 1, fuel + 1, result, w :: ws, hn, hfuel => by
    have hlower : ∀ y ∈ (w :: ws).flatMap next, μ y < n := by
      intro y hy
      obtain ⟨x, hx, hxy⟩ := List.mem_flatMap.mp hy
      exact Nat.lt_of_lt_of_le (hμ x y hxy) (Nat.le_of_lt_succ (hn x hx))
    rw [unionAllLoop, unionAllLoop_spec hμ n fuel _ _ hlower (Nat.le_of_succ_le_succ hfuel), levels_succ,
      List.append_assoc]

/-- **A `UNION ALL` ends** where the rows count down, and gives level after level. -/
theorem unionAll_spec {μ : α → ℕ} (hμ : ∀ x, ∀ y ∈ next x, μ y < μ x) {seed : List α} {n fuel : ℕ}
    (hseed : ∀ x ∈ seed, μ x < n) (hfuel : n ≤ fuel) :
    unionAll next fuel seed = some (levels next (n + 1) seed) := by
  rw [unionAll, unionAllLoop_spec hμ n fuel seed seed hseed hfuel, levels_succ]

end DTwin.Recursive
