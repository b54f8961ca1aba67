import Mathlib.Algebra.BigOperators.Group.List.Basic
import Mathlib.Data.List.Dedup
import Mathlib.Data.List.Induction
import Mathlib.Data.List.ReduceOption
import Mathlib.Data.List.Sort
import Mathlib.Tactic.Common

/-!
# DTwin.Lib.Series — ordered lists, in groups and step by step

* `groups key l`: `GROUP BY key`, ordered by the key.  The groups of a list that is ordered by the key are its
  consecutive pieces (`groups_flatten`).
* `steps f l`: the sum of `f` over the neighbours of `l`.  Over a list cut in pieces it is the sum over each piece, and
  over the joints: from the last element of a piece to the first of the next that is not empty (`steps_flatten`).
* `place`: elements put at their indices into a row of empty cells; read in order they are what was put
  (`reduceOption_place`).
-/

namespace DTwin.Series

variable {α β : Type*}

/-! ## Keys -/

section Keys

variable {κ : Type*} {key : α → κ} {l : List α}

/-- Of what has a key of its own, nothing but one is selected by what goes by the key. -/
theorem length_filter_le_one (hl : (l.map key).Nodup) {p : α → Bool}
    (hp : ∀ a b, p a = true → p b = true → key a = key b) : (l.filter p).length ≤ 1 := by
  have hnodup : ((l.filter p).map key).Nodup := hl.sublist (List.filter_sublist.map key)
  have hmem : ∀ a ∈ l.filter p, p a = true := fun a ha => (List.mem_filter.mp ha).2
  rcases hfilter : l.filter p with - | ⟨a, - | ⟨b, rest⟩⟩
  · exact Nat.zero_le 1
  · exact le_rfl
  · rw [hfilter] at hnodup hmem
    have hsame := hp a b (hmem a List.mem_cons_self) (hmem b (List.mem_cons_of_mem a List.mem_cons_self))
    have hnew := (List.nodup_cons.mp hnodup).1
    rw [hsame] at hnew
    exact absurd List.mem_cons_self hnew

/-- Of what has a key of its own there is one with a key that is there. -/
theorem filter_key_eq [DecidableEq κ] (hl : (l.map key).Nodup) {a : α} (ha : a ∈ l) :
    (l.filter fun b => key b = key a) = [a] := by
  have hmem : a ∈ l.filter fun b => key b = key a := List.mem_filter.mpr ⟨ha, by simp⟩
  have hone : (l.filter fun b => key b = key a).length ≤ 1 :=
    length_filter_le_one hl fun b b' hb hb' => (of_decide_eq_true hb).trans (of_decide_eq_true hb').symm
  obtain ⟨b, hb⟩ := List.length_eq_one_iff.mp (le_antisymm hone (List.length_pos_of_mem hmem))
  rw [hb] at hmem ⊢
  rw [List.mem_singleton.mp hmem]

/-- What is made of the elements of a kind, if nothing is made of the others. -/
theorem flatMap_filter_of_nil {p : α → Bool} {f : α → List β} {l : List α} (h : ∀ a ∈ l, p a = false → f a = []) :
    (l.filter p).flatMap f = l.flatMap f := by
  induction l with
  | nil => rfl
  | cons a l ih =>
    have hrest := ih fun b hb => h b (List.mem_cons_of_mem a hb)
    rw [List.flatMap_cons, ← hrest]
    by_cases ha : p a = true
    · rw [List.filter_cons_of_pos ha, List.flatMap_cons]
    · rw [List.filter_cons_of_neg ha, h a List.mem_cons_self (Bool.not_eq_true _ ▸ ha)]
      rfl

end Keys

/-! ## Sums by key -/

section Sums

variable {κ M : Type*} [DecidableEq κ] [AddCommMonoid M]

theorem sum_ite_key (ks : List κ) (k : κ) (x : M) :
    (ks.map fun k' => if k = k' then x else 0).sum = ks.count k • x := by
  induction ks with
  | nil => simp
  | cons k' ks ih =>
    rw [List.map_cons, List.sum_cons, ih]
    by_cases hk : k = k'
    · subst hk
      rw [if_pos rfl, List.count_cons_self, succ_nsmul']
    · rw [if_neg hk, zero_add, List.count_cons_of_ne fun h => hk h.symm]

/-- The sums of what keys select have every element as often as its key is there. -/
theorem sum_count_key (ks : List κ) (key : α → κ) (f : α → M) (l : List α) :
    (ks.map fun k => ((l.filter fun a => key a = k).map f).sum).sum = (l.map fun a => ks.count (key a) • f a).sum := by
  induction l with
  | nil => simp
  | cons a l ih =>
    have hcons : ∀ k, (((a :: l).filter fun b => key b = k).map f).sum =
        (if key a = k then f a else 0) + ((l.filter fun b => key b = k).map f).sum := by
      intro k
      by_cases hk : key a = k <;> simp [hk]
    rw [List.map_congr_left fun k _ => hcons k, List.sum_map_add, sum_ite_key, ih]
    rfl

/-- Over keys that are told apart, the sums of what they select are the sum of what any of them selects. -/
theorem sum_filter_key {ks : List κ} (hks : ks.Nodup) (key : α → κ) (f : α → M) (l : List α) :
    (ks.map fun k => ((l.filter fun a => key a = k).map f).sum).sum = ((l.filter fun a => key a ∈ ks).map f).sum := by
  rw [sum_count_key]
  induction l with
  | nil => rfl
  | cons a l ih =>
    rw [List.map_cons, List.sum_cons, ih]
    by_cases hmem : key a ∈ ks
    · rw [List.count_eq_one_of_mem hks hmem, one_nsmul]
      simp [hmem]
    · simp [hmem, List.count_eq_zero_of_not_mem hmem]

end Sums

/-! ## Groups -/

section Groups

variable {κ : Type*} [LinearOrder κ]

def groups (key : α → κ) (l : List α) : List (κ × List α) :=
  ((l.map key).dedup.insertionSort (· ≤ ·)).map fun k => (k, l.filter fun a => key a = k)

theorem filter_eq_nil_of_lt {key : α → κ} {l : List α} {k : κ} (h : ∀ a ∈ l, k < key a) :
    (l.filter fun a => key a = k) = [] := by
  rw [List.filter_eq_nil_iff]
  intro a ha heq
  exact absurd (of_decide_eq_true heq) (h a ha).ne'

/-- Over keys in order, those of the list among them, the pieces are the list. -/
theorem flatMap_filter {key : α → κ} {l : List α} (hl : l.Pairwise fun a b => key a ≤ key b) {ks : List κ}
    (hks : ks.Pairwise (· < ·)) (hmem : ∀ a ∈ l, key a ∈ ks) :
    (ks.flatMap fun k => l.filter fun a => key a = k) = l := by
  induction l with
  | nil => simp
  | cons a l ih =>
    obtain ⟨hfirst, hrest⟩ := List.pairwise_cons.mp hl
    obtain ⟨before, after, rfl⟩ := List.append_of_mem (hmem a List.mem_cons_self)
    obtain ⟨-, hafter, hbefore⟩ := List.pairwise_append.mp hks
    have hlt : ∀ k ∈ before, k < key a := fun k hk => hbefore k hk (key a) List.mem_cons_self
    have hgt : ∀ k ∈ after, key a < k := (List.pairwise_cons.mp hafter).1
    have hnone : ∀ k ∈ before, ((a :: l).filter fun b => key b = k) = [] := by
      intro k hk
      refine filter_eq_nil_of_lt fun b hb => (hlt k hk).trans_le ?_
      rcases List.mem_cons.mp hb with rfl | hb
      · exact le_rfl
      · exact hfirst b hb
    have hnone' : ∀ k ∈ before, (l.filter fun b => key b = k) = [] := fun k hk =>
      filter_eq_nil_of_lt fun b hb => (hlt k hk).trans_le (hfirst b hb)
    have hlater : ∀ k ∈ after, ((a :: l).filter fun b => key b = k) = l.filter fun b => key b = k := fun k hk =>
      List.filter_cons_of_neg (by simpa using (hgt k hk).ne)
    have hold := ih hrest fun b hb => hmem b (List.mem_cons_of_mem _ hb)
    rw [List.flatMap_append, List.flatMap_cons] at hold ⊢
    rw [List.flatMap_eq_nil_iff.mpr hnone'] at hold
    rw [List.flatMap_eq_nil_iff.mpr hnone, List.flatMap_congr hlater, List.filter_cons_of_pos (by simp)]
    simpa using hold

/-- **The groups of an ordered list** are its pieces. -/
theorem groups_flatten {key : α → κ} {l : List α} (hl : l.Pairwise fun a b => key a ≤ key b) :
    (groups key l).flatMap Prod.snd = l := by
  have hks : ((l.map key).dedup.insertionSort (· ≤ ·)).Pairwise (· < ·) := by
    have hsorted := List.pairwise_insertionSort (· ≤ ·) (l.map key).dedup
    have hnodup : ((l.map key).dedup.insertionSort (· ≤ ·)).Nodup :=
      (List.perm_insertionSort (· ≤ ·) _).nodup_iff.mpr (List.nodup_dedup _)
    exact (hsorted.and hnodup).imp fun h => lt_of_le_of_ne h.1 h.2
  unfold groups
  rw [List.flatMap_map]
  refine flatMap_filter hl hks fun a ha => ?_
  rw [List.mem_insertionSort, List.mem_dedup]
  exact List.mem_map_of_mem ha

/-- The keys of the groups are in order. -/
theorem groups_sorted (key : α → κ) (l : List α) : (groups key l).Pairwise fun g g' => g.1 < g'.1 := by
  have hsorted := List.pairwise_insertionSort (· ≤ ·) (l.map key).dedup
  have hnodup : ((l.map key).dedup.insertionSort (· ≤ ·)).Nodup :=
    (List.perm_insertionSort (· ≤ ·) _).nodup_iff.mpr (List.nodup_dedup _)
  unfold groups
  rw [List.pairwise_map]
  exact (hsorted.and hnodup).imp fun h => lt_of_le_of_ne h.1 h.2

theorem mem_groups {key : α → κ} {l : List α} {g : κ × List α} :
    g ∈ groups key l ↔ (l.filter fun a => key a = g.1) = g.2 ∧ g.2 ≠ [] := by
  constructor
  · intro hg
    obtain ⟨k, hk, rfl⟩ := List.mem_map.mp hg
    rw [List.mem_insertionSort, List.mem_dedup] at hk
    obtain ⟨a, ha, rfl⟩ := List.mem_map.mp hk
    exact ⟨rfl, List.ne_nil_of_mem (List.mem_filter.mpr ⟨ha, by simp⟩)⟩
  · rintro ⟨hfilter, hne⟩
    obtain ⟨a, ha⟩ := List.exists_mem_of_ne_nil _ hne
    rw [← hfilter] at ha
    obtain ⟨hal, hkey⟩ := List.mem_filter.mp ha
    refine List.mem_map.mpr ⟨g.1, ?_, Prod.ext rfl hfilter⟩
    rw [List.mem_insertionSort, List.mem_dedup]
    exact List.mem_map.mpr ⟨a, hal, of_decide_eq_true hkey⟩

/-- Of the groups there is one of a key that is met. -/
theorem filter_groups (key : α → κ) (l : List α) (k : κ) : ((groups key l).filter fun g => g.1 = k) =
    if (l.filter fun a => key a = k) = [] then [] else [(k, l.filter fun a => key a = k)] := by
  split_ifs with hnil
  · refine List.filter_eq_nil_iff.mpr fun g hg heq => ?_
    obtain ⟨hfilter, hne⟩ := mem_groups.mp hg
    rw [of_decide_eq_true heq, hnil] at hfilter
    exact hne hfilter.symm
  · have hnodup : ((groups key l).map Prod.fst).Nodup :=
      List.pairwise_map.mpr ((groups_sorted key l).imp fun hlt => hlt.ne)
    have hmem : (k, l.filter fun a => key a = k) ∈ groups key l := mem_groups.mpr ⟨rfl, hnil⟩
    exact filter_key_eq hnodup hmem

/-- Groups of rows made from others. -/
theorem groups_map (key : β → κ) (f : α → β) (l : List α) :
    groups key (l.map f) = (groups (fun a => key (f a)) l).map fun g => (g.1, g.2.map f) := by
  unfold groups
  rw [List.map_map, List.map_map]
  refine List.map_congr_left fun k _ => ?_
  show (k, (l.map f).filter _) = (k, (l.filter _).map f)
  rw [List.filter_map]
  rfl

/-- The sum over some of the groups. -/
theorem sum_groups_filter {M : Type*} [AddCommMonoid M] (key : α → κ) (f : α → M) (p : κ → Bool) (l : List α) :
    (((groups key l).filter fun g => p g.1).map fun g => (g.2.map f).sum).sum =
      ((l.filter fun a => p (key a)).map f).sum := by
  have hks : (((l.map key).dedup.insertionSort (· ≤ ·)).filter p).Nodup :=
    ((List.perm_insertionSort (· ≤ ·) _).nodup_iff.mpr (List.nodup_dedup _)).filter p
  have hkeys := sum_filter_key hks key f l
  unfold groups
  rw [List.filter_map, List.map_map]
  refine hkeys.trans ?_
  congr 2
  refine List.filter_congr fun a ha => ?_
  have hmem : key a ∈ (l.map key).dedup.insertionSort (· ≤ ·) := by
    rw [List.mem_insertionSort, List.mem_dedup]
    exact List.mem_map_of_mem ha
  simp [hmem]

end Groups

/-! ## Steps -/

section Steps

variable {M : Type*} [AddCommMonoid M]

/-- The sum over neighbours. -/
def steps (f : α → α → M) (l : List α) : M := (l.zipWith f l.tail).sum

/-- The step from one piece to the next. -/
def joint (f : α → α → M) (a b : List α) : M := ((a.getLast?).bind fun x => (b.head?).map (f x)).getD 0

/-- The first and the last element of a piece. -/
def ends (p : List α) : Option (α × α) := p.head?.bind fun x => p.getLast?.map fun y => (x, y)

variable (f : α → α → M)

@[simp] theorem steps_nil : steps f ([] : List α) = 0 := rfl

@[simp] theorem steps_singleton (x : α) : steps f [x] = 0 := rfl

@[simp] theorem steps_cons_cons (x y : α) (l : List α) : steps f (x :: y :: l) = f x y + steps f (y :: l) := by
  simp [steps]

theorem steps_append : ∀ a b : List α, steps f (a ++ b) = steps f a + joint f a b + steps f b
  | [], b => by simp [joint]
  | [x], [] => by simp [joint]
  | [x], y :: b => by simp [joint]
  | x :: y :: a, b => by
    have hrest := steps_append (y :: a) b
    have hjoint : joint f (x :: y :: a) b = joint f (y :: a) b := by rw [joint, List.getLast?_cons_cons, joint]
    rw [List.cons_append] at hrest
    rw [List.cons_append, List.cons_append, steps_cons_cons, hrest, steps_cons_cons, hjoint]
    simp only [add_assoc]

theorem ends_cons (x : α) (l : List α) : ends (x :: l) = some (x, (x :: l).getLast (List.cons_ne_nil x l)) := by
  simp [ends, List.getLast?_eq_getLast_of_ne_nil]

/-- The first element of the pieces is that of the first that is not empty. -/
theorem head?_filterMap_ends : ∀ parts : List (List α), (parts.filterMap ends).head?.map Prod.fst = parts.flatten.head?
  | [] => rfl
  | [] :: parts => head?_filterMap_ends parts
  | (x :: p) :: parts => by
    rw [List.filterMap_cons_some (ends_cons x p)]
    rfl

/-- **The steps of a list cut in pieces.** -/
theorem steps_flatten : ∀ parts : List (List α), steps f parts.flatten =
    (parts.map (steps f)).sum + steps (fun a b => f a.2 b.1) (parts.filterMap ends)
  | [] => by simp
  | [] :: parts => by
    have hrest := steps_flatten parts
    have hnone : ends ([] : List α) = none := rfl
    simpa [hnone] using hrest
  | (x :: p) :: parts => by
    have hrest := steps_flatten parts
    have hhead := head?_filterMap_ends parts
    have hlast : (x :: p).getLast? = some ((x :: p).getLast (List.cons_ne_nil x p)) := List.getLast?_eq_some_getLast _
    have hjoint : joint f (x :: p) parts.flatten + steps (fun a b => f a.2 b.1) (parts.filterMap ends) =
        steps (fun a b => f a.2 b.1) ((x, (x :: p).getLast (List.cons_ne_nil x p)) :: parts.filterMap ends) := by
      rw [joint, ← hhead, hlast]
      cases parts.filterMap ends with
      | nil => simp
      | cons e es => simp
    rw [List.flatten_cons, steps_append, hrest, List.map_cons, List.sum_cons, List.filterMap_cons_some (ends_cons x p),
      ← hjoint]
    simp only [add_assoc, add_left_comm]

end Steps

/-! ## Places -/

section Places

/-- Put each element at its index, if there is such a cell. -/
def place (index : α → Option ℕ) (n : ℕ) (l : List α) : List (Option α) :=
  l.foldl (fun cells a => match index a with
    | some i => cells.set i (some a)
    | none => cells) (List.replicate n none)

/-- An element put behind all the others. -/
theorem reduceOption_set {cells : List (Option α)} {i : ℕ} (hi : i < cells.length)
    (hempty : ∀ c ∈ cells.drop i, c = none) (a : α) : (cells.set i (some a)).reduceOption = cells.reduceOption ++ [a] ∧
      ∀ c ∈ (cells.set i (some a)).drop (i + 1), c = none := by
  induction cells generalizing i with
  | nil => exact absurd hi (Nat.not_lt_zero i)
  | cons c cells ih =>
    cases i with
    | zero =>
      have hnone : ∀ c' ∈ c :: cells, c' = none := hempty
      have hrest : cells.reduceOption = [] := by
        rw [List.reduceOption, List.filterMap_eq_nil_iff]
        exact fun c' hc' => hnone c' (List.mem_cons_of_mem _ hc')
      have hfirst : c = none := hnone c List.mem_cons_self
      refine ⟨?_, fun c' hc' => hnone c' (List.mem_cons_of_mem _ (by simpa using hc'))⟩
      rw [hfirst, List.set_cons_zero, List.reduceOption_cons_of_some, List.reduceOption_cons_of_none, hrest]
      rfl
    | succ i =>
      obtain ⟨hreduce, hdrop⟩ := ih (Nat.lt_of_succ_lt_succ hi) (by simpa using hempty)
      refine ⟨?_, by simpa using hdrop⟩
      rw [List.set_cons_succ]
      cases c with
      | none => simpa using hreduce
      | some b => simp [hreduce]

/-- **What is put in order is read in order.** -/
theorem reduceOption_place {index : α → Option ℕ} {n : ℕ} {l : List α} (hindex : ∀ a ∈ l, ∃ i < n, index a = some i)
    (hl : l.Pairwise fun a b => ∀ i j, index a = some i → index b = some j → i < j) :
    (place index n l).reduceOption = l ∧ (place index n l).length = n ∧
      ∀ k, (∀ a ∈ l, ∀ i, index a = some i → i < k) → ∀ c ∈ (place index n l).drop k, c = none := by
  induction l using List.reverseRecOn with
  | nil =>
    refine ⟨?_, List.length_replicate, fun k _ c hc => ?_⟩
    · rw [place, List.foldl_nil, List.reduceOption, List.filterMap_eq_nil_iff]
      exact fun c hc => List.eq_of_mem_replicate hc
    · exact List.eq_of_mem_replicate (List.mem_of_mem_drop hc)
  | append_singleton l a ih =>
    obtain ⟨hl', -, hlast⟩ := List.pairwise_append.mp hl
    obtain ⟨hreduce, hlength, hempty⟩ := ih (fun b hb => hindex b (List.mem_append_left _ hb)) hl'
    obtain ⟨i, hi, ha⟩ := hindex a (by simp)
    have hplace : place index n (l ++ [a]) = (place index n l).set i (some a) := by
      simp only [place, List.foldl_append, List.foldl_cons, List.foldl_nil, ha]
    have hbehind : ∀ b ∈ l, ∀ j, index b = some j → j < i := fun b hb j hj => hlast b hb a (by simp) j i hj ha
    obtain ⟨hset, hdrop⟩ := reduceOption_set (by rwa [hlength]) (hempty i hbehind) a
    rw [hplace]
    refine ⟨by rw [hset, hreduce], by rw [List.length_set, hlength], fun k hk c hc => ?_⟩
    have hik : i + 1 ≤ k := hk a (by simp) i ha
    refine hdrop c ?_
    rw [← Nat.add_sub_cancel' hik, ← List.drop_drop] at hc
    exact List.mem_of_mem_drop hc

/-- A cell that is not empty holds an element of its index. -/
theorem mem_place {index : α → Option ℕ} {n k : ℕ} {l : List α} {a : α} (h : (place index n l)[k]? = some (some a)) :
    a ∈ l ∧ index a = some k := by
  induction l using List.reverseRecOn with
  | nil => simp [place, List.getElem?_replicate] at h
  | append_singleton l b ih =>
    have hold : (place index n l)[k]? = some (some a) → a ∈ l ++ [b] ∧ index a = some k := fun h =>
      ⟨List.mem_append_left _ (ih h).1, (ih h).2⟩
    simp only [place, List.foldl_append, List.foldl_cons, List.foldl_nil] at h
    cases hb : index b with
    | none =>
      rw [hb] at h
      exact hold h
    | some i =>
      simp only [hb, List.getElem?_set] at h
      split_ifs at h with hik
      · obtain rfl := Option.some.inj (Option.some.inj h)
        exact ⟨by simp, by rw [hb, hik]⟩
      · exact hold h

theorem length_place {index : α → Option ℕ} {n : ℕ} (l : List α) : (place index n l).length = n := by
  induction l using List.reverseRecOn with
  | nil => exact List.length_replicate
  | append_singleton l a ih =>
    simp only [place, List.foldl_append, List.foldl_cons, List.foldl_nil]
    split
    · rw [List.length_set]
      exact ih
    · exact ih

/-- A cell holds the last element of its index. -/
theorem getElem?_place {index : α → Option ℕ} {n k : ℕ} (hk : k < n) (l : List α) :
    (place index n l)[k]? = some (l.filter fun a => index a = some k).getLast? := by
  induction l using List.reverseRecOn with
  | nil => simp [place, hk]
  | append_singleton l a ih =>
    rw [List.filter_append]
    cases ha : index a with
    | none =>
      have hlast : place index n (l ++ [a]) = place index n l := by
        simp only [place, List.foldl_append, List.foldl_cons, List.foldl_nil, ha]
      simp [hlast, ha, ih]
    | some i =>
      have hlength : (place index n l).length = n := length_place l
      have hlast : place index n (l ++ [a]) = (place index n l).set i (some a) := by
        simp only [place, List.foldl_append, List.foldl_cons, List.foldl_nil, ha]
      by_cases hik : i = k
      · subst hik
        simp [hlast, ha, hlength, hk]
      · simp [hlast, ha, hik, ih]

end Places

end DTwin.Series
