import Mathlib.Algebra.BigOperators.Group.List.Basic
import Mathlib.Data.List.Induction
import Mathlib.Data.List.Nodup
import Mathlib.Tactic.Common

/-!
# DTwin.Lib.OrderedMap — maps that remember the order of insertion

`OrderedMap κ ν` lists its entries in the order in which their keys first came; setting a key that is
there changes its value in place.

* `get?_set`, `get?_erase`, `mem_entries`: the map as a partial function;
* `ofList key l`: each element under its key, the last one under a key staying, so that what is under `k`
  is `lastOf key k l` (`get?_ofList`);
* `groupBy key l`: the elements of each key, in order (`get?_groupBy`).

Nothing here knows what is being mapped.
-/

namespace DTwin

structure OrderedMap (κ ν : Type*) where
  entries : List (κ × ν)
  nodup : (entries.map Prod.fst).Nodup

namespace OrderedMap

variable {κ ν α : Type*}

def empty : OrderedMap κ ν := ⟨[], List.nodup_nil⟩

def keys (m : OrderedMap κ ν) : List κ := m.entries.map Prod.fst

def values (m : OrderedMap κ ν) : List ν := m.entries.map Prod.snd

def size (m : OrderedMap κ ν) : ℕ := m.entries.length

/-- `f` on the value of an entry. -/
def filterMapEntry (f : ν → Option ν) (e : κ × ν) : Option (κ × ν) := (f e.2).map fun v => (e.1, v)

theorem sublist_filterMapEntry (f : ν → Option ν) : ∀ l : List (κ × ν),
    ((l.filterMap (filterMapEntry f)).map Prod.fst).Sublist (l.map Prod.fst)
  | [] => List.Sublist.refl _
  | e :: l => by
    cases he : f e.2 with
    | none => simpa [filterMapEntry, he] using (sublist_filterMapEntry f l).cons e.1
    | some v => simpa [filterMapEntry, he] using sublist_filterMapEntry f l

/-- Change every value, or drop its entry. -/
def filterMapValues (m : OrderedMap κ ν) (f : ν → Option ν) : OrderedMap κ ν where
  entries := m.entries.filterMap (filterMapEntry f)
  nodup := m.nodup.sublist (sublist_filterMapEntry f m.entries)

variable [DecidableEq κ]

def get? (m : OrderedMap κ ν) (k : κ) : Option ν := (m.entries.find? fun e => e.1 = k).map Prod.snd

/-- `set` on the entries. -/
def setEntry (k : κ) (v : ν) : List (κ × ν) → List (κ × ν)
  | [] => [(k, v)]
  | e :: l => if e.1 = k then (k, v) :: l else e :: setEntry k v l

theorem map_fst_setEntry (k : κ) (v : ν) : ∀ l : List (κ × ν),
    (setEntry k v l).map Prod.fst =
      if k ∈ l.map Prod.fst then l.map Prod.fst else l.map Prod.fst ++ [k]
  | [] => by simp [setEntry]
  | e :: l => by
    by_cases he : e.1 = k
    · simp [setEntry, he]
    · have hne : k ≠ e.1 := fun h => he h.symm
      simp only [setEntry, he, if_false, List.map_cons, List.mem_cons, hne, false_or,
        map_fst_setEntry k v l]
      split_ifs <;> rfl

def set (m : OrderedMap κ ν) (k : κ) (v : ν) : OrderedMap κ ν where
  entries := setEntry k v m.entries
  nodup := by
    rw [map_fst_setEntry]
    split_ifs with hk
    · exact m.nodup
    · exact List.nodup_append.mpr ⟨m.nodup, List.nodup_singleton k, fun a ha b hb hab =>
        hk (List.mem_singleton.mp hb ▸ hab ▸ ha)⟩

def erase (m : OrderedMap κ ν) (k : κ) : OrderedMap κ ν where
  entries := m.entries.filter fun e => e.1 ≠ k
  nodup := m.nodup.sublist (List.filter_sublist.map _)

/-! ## As a partial function -/

@[simp] theorem get?_empty (k : κ) : (empty : OrderedMap κ ν).get? k = none := rfl

/-- The entries are the graph of the map. -/
theorem mem_entries {m : OrderedMap κ ν} {k : κ} {v : ν} : (k, v) ∈ m.entries ↔ m.get? k = some v := by
  constructor
  · intro h
    obtain ⟨e, he⟩ : ∃ e, m.entries.find? (fun e => e.1 = k) = some e :=
      Option.isSome_iff_exists.mp (List.find?_isSome.mpr ⟨(k, v), h, by simp⟩)
    have hk : e.1 = k := by simpa using List.find?_some he
    obtain rfl := List.inj_on_of_nodup_map m.nodup (List.mem_of_find?_eq_some he) h hk
    rw [get?, he]
    rfl
  · intro h
    obtain ⟨e, he, rfl⟩ := Option.map_eq_some_iff.mp h
    have hk : e.1 = k := by simpa using List.find?_some he
    subst hk
    exact List.mem_of_find?_eq_some he

theorem mem_keys {m : OrderedMap κ ν} {k : κ} : k ∈ m.keys ↔ (m.get? k).isSome := by
  rw [Option.isSome_iff_exists]
  constructor
  · intro h
    obtain ⟨e, he, rfl⟩ := List.mem_map.mp h
    exact ⟨e.2, mem_entries.mp he⟩
  · rintro ⟨v, hv⟩
    exact List.mem_map.mpr ⟨(k, v), mem_entries.mpr hv, rfl⟩

theorem mem_values {m : OrderedMap κ ν} {v : ν} : v ∈ m.values ↔ ∃ k, m.get? k = some v := by
  constructor
  · intro h
    obtain ⟨e, he, rfl⟩ := List.mem_map.mp h
    exact ⟨e.1, mem_entries.mp he⟩
  · rintro ⟨k, hk⟩
    exact List.mem_map.mpr ⟨(k, v), mem_entries.mpr hk, rfl⟩

theorem find?_setEntry (k : κ) (v : ν) (k' : κ) : ∀ l : List (κ × ν),
    ((setEntry k v l).find? fun e => e.1 = k').map Prod.snd =
      if k = k' then some v else (l.find? fun e => e.1 = k').map Prod.snd
  | [] => by by_cases hk : k = k' <;> simp [setEntry, hk]
  | e :: l => by
    by_cases he : e.1 = k
    · by_cases hk : k = k'
      · simp [setEntry, he, hk]
      · have hne : e.1 ≠ k' := fun h => hk (he.symm.trans h)
        simp [setEntry, he, hk]
    · by_cases hk' : e.1 = k'
      · subst hk'
        have hne : k ≠ e.1 := fun h => he h.symm
        simp [setEntry, he, hne]
      · have ih := find?_setEntry k v k' l
        simpa [setEntry, he, hk'] using ih

theorem get?_set (m : OrderedMap κ ν) (k : κ) (v : ν) (k' : κ) :
    (m.set k v).get? k' = if k = k' then some v else m.get? k' :=
  find?_setEntry k v k' m.entries

theorem get?_erase (m : OrderedMap κ ν) (k k' : κ) :
    (m.erase k).get? k' = if k = k' then none else m.get? k' := by
  by_cases hk : k = k'
  · subst hk
    simp [get?, erase, List.find?_filter]
  · rw [if_neg hk]
    refine Option.ext fun v => ?_
    have hne : k' ≠ k := fun h => hk h.symm
    rw [← mem_entries, ← mem_entries]
    simp [erase, hne]

theorem get?_filterMapValues (m : OrderedMap κ ν) (f : ν → Option ν) (k : κ) :
    (m.filterMapValues f).get? k = (m.get? k).bind f := by
  refine Option.ext fun v => ?_
  rw [← mem_entries, Option.bind_eq_some_iff]
  simp only [filterMapValues, filterMapEntry, List.mem_filterMap, Option.map_eq_some_iff, Prod.exists,
    Prod.mk.injEq, mem_entries]
  constructor
  · rintro ⟨k', u, hu, w, hw, rfl, rfl⟩
    exact ⟨u, hu, hw⟩
  · rintro ⟨u, hu, hv⟩
    exact ⟨k, u, hu, v, hv, rfl, rfl⟩

omit [DecidableEq κ] in
theorem values_filterMapValues (m : OrderedMap κ ν) (f : ν → Option ν) :
    (m.filterMapValues f).values = m.values.filterMap f := by
  unfold filterMapValues values
  rw [List.map_filterMap, List.filterMap_map]
  refine List.filterMap_congr fun e _ => ?_
  show (filterMapEntry f e).map Prod.snd = f e.2
  rw [filterMapEntry, Option.map_map]
  exact Option.map_id_apply

/-! ## Sums over a map -/

section Sums

variable {M : Type*} [AddCommMonoid M] (f : ν → M)

theorem sum_setEntry (k : κ) (v : ν) : ∀ l : List (κ × ν),
    ((setEntry k v l).map fun e => f e.2).sum + ((l.find? fun e => e.1 = k).map Prod.snd).elim 0 f =
      (l.map fun e => f e.2).sum + f v
  | [] => by simp [setEntry]
  | e :: l => by
    by_cases he : e.1 = k
    · simp [setEntry, he, add_comm, add_left_comm]
    · have hrest := congrArg (f e.2 + ·) (sum_setEntry k v l)
      simpa [setEntry, he, add_assoc] using hrest

/-- Setting a key exchanges what was under it. -/
theorem sum_values_set (m : OrderedMap κ ν) (k : κ) (v : ν) :
    ((m.set k v).values.map f).sum + (m.get? k).elim 0 f = (m.values.map f).sum + f v := by
  have hsum := sum_setEntry f k v m.entries
  simpa [values, set, get?, Function.comp_def] using hsum

end Sums

/-! ## The last of each key -/

/-- The last element of `l` with key `k`. -/
def lastOf (key : α → κ) (k : κ) (l : List α) : Option α := (l.filter fun a => key a = k).getLast?

variable {key : α → κ} {k : κ} {l l' : List α}

@[simp] theorem lastOf_nil : lastOf key k [] = none := rfl

theorem lastOf_append : lastOf key k (l ++ l') = (lastOf key k l').or (lastOf key k l) := by
  simp [lastOf, List.getLast?_append]

theorem lastOf_some {a : α} (h : lastOf key k l = some a) : a ∈ l ∧ key a = k := by
  have hmem := List.mem_of_getLast? h
  simpa using List.mem_filter.mp hmem

theorem lastOf_eq_none : lastOf key k l = none ↔ ∀ a ∈ l, key a ≠ k := by
  simp [lastOf]

theorem exists_lastOf (key : α → κ) {a : α} (ha : a ∈ l) : ∃ b, lastOf key (key a) l = some b := by
  cases h : lastOf key (key a) l with
  | none => exact absurd rfl (lastOf_eq_none.mp h a ha)
  | some b => exact ⟨b, rfl⟩

theorem lastOf_singleton (a : α) : lastOf key k [a] = if key a = k then some a else none := by
  by_cases hk : key a = k <;> simp [lastOf, hk]

/-- Elements of other keys do not matter. -/
theorem lastOf_filter {p : α → Bool} (hp : ∀ a ∈ l, key a = k → p a = true) :
    lastOf key k (l.filter p) = lastOf key k l := by
  rw [lastOf, lastOf, List.filter_filter]
  congr 1
  refine List.filter_congr fun a ha => ?_
  by_cases hk : key a = k <;> simp [hk, hp a ha]

/-- Each element under its key, in order. -/
def ofList (key : α → κ) (l : List α) : OrderedMap κ α := l.foldl (fun m a => m.set (key a) a) empty

theorem get?_foldl_set (key : α → κ) (k : κ) : ∀ (l : List α) (m : OrderedMap κ α),
    (l.foldl (fun m a => m.set (key a) a) m).get? k = (lastOf key k l).or (m.get? k)
  | [], m => by simp
  | a :: l, m => by
    rw [List.foldl_cons, get?_foldl_set key k l, get?_set, ← List.singleton_append, lastOf_append,
      lastOf_singleton, Option.or_assoc]
    split_ifs <;> rfl

theorem get?_ofList (key : α → κ) (k : κ) (l : List α) : (ofList key l).get? k = lastOf key k l := by
  rw [ofList, get?_foldl_set, get?_empty, Option.or_none]

theorem mem_values_ofList {a : α} : a ∈ (ofList key l).values ↔ lastOf key (key a) l = some a := by
  simp only [mem_values, get?_ofList]
  constructor
  · rintro ⟨k, hk⟩
    rwa [(lastOf_some hk).2]
  · exact fun h => ⟨_, h⟩

theorem setEntry_of_not_mem {v : ν} : ∀ {l : List (κ × ν)}, k ∉ l.map Prod.fst → setEntry k v l = l ++ [(k, v)]
  | [], _ => rfl
  | e :: l, h => by
    have hne : e.1 ≠ k := fun heq => h (heq ▸ List.mem_cons_self)
    rw [setEntry, if_neg hne, setEntry_of_not_mem fun hmem => h (List.mem_cons_of_mem _ hmem)]
    rfl

/-- Elements under keys of their own all stay. -/
theorem entries_ofList {l : List α} (hl : (l.map key).Nodup) : (ofList key l).entries = l.map fun a => (key a, a) := by
  induction l using List.reverseRecOn with
  | nil => rfl
  | append_singleton l a ih =>
    rw [List.map_append, List.nodup_append] at hl
    have hnew : key a ∉ ((ofList key l).entries).map Prod.fst := by
      rw [ih hl.1, List.map_map]
      intro hmem
      exact hl.2.2 (key a) hmem (key a) (by simp) rfl
    rw [ofList, List.foldl_append]
    show setEntry (key a) a (ofList key l).entries = _
    rw [setEntry_of_not_mem hnew, ih hl.1, List.map_append]
    rfl

theorem values_ofList {l : List α} (hl : (l.map key).Nodup) : (ofList key l).values = l := by
  rw [values, entries_ofList hl, List.map_map]
  exact List.map_id l

/-! ## Groups -/

/-- Add an element to the group of its key. -/
def push (key : α → κ) (m : OrderedMap κ (List α)) (a : α) : OrderedMap κ (List α) :=
  m.set (key a) ((m.get? (key a)).getD [] ++ [a])

/-- The elements of each key, in order; the groups in the order of their first elements. -/
def groupBy (key : α → κ) (l : List α) : OrderedMap κ (List α) := l.foldl (push key) empty

theorem get?_foldl_push (key : α → κ) (k : κ) : ∀ (l : List α) (m : OrderedMap κ (List α)),
    (l.foldl (push key) m).get? k =
      if (l.filter fun a => key a = k) = [] then m.get? k
      else some ((m.get? k).getD [] ++ l.filter fun a => key a = k)
  | [], m => by simp
  | a :: l, m => by
    rw [List.foldl_cons, get?_foldl_push key k l, push, get?_set]
    by_cases hk : key a = k
    · subst hk
      by_cases hl : (l.filter fun b => key b = key a) = [] <;> simp [hl]
    · simp [hk]

theorem get?_groupBy (key : α → κ) (k : κ) (l : List α) :
    (groupBy key l).get? k =
      if (l.filter fun a => key a = k) = [] then none else some (l.filter fun a => key a = k) := by
  rw [groupBy, get?_foldl_push]
  rfl

/-- Put under its key, an element is added to what the groups hold. -/
theorem flatMap_setEntry (k : κ) (a : α) : ∀ l : List (κ × List α),
    ((setEntry k (((l.find? fun e => e.1 = k).map Prod.snd).getD [] ++ [a]) l).flatMap Prod.snd).Perm
      (l.flatMap Prod.snd ++ [a])
  | [] => by simp [setEntry]
  | e :: l => by
    by_cases he : e.1 = k
    · simp only [setEntry, List.find?_cons, he, decide_true, if_true, Option.map_some, Option.getD_some,
        List.flatMap_cons, List.append_assoc]
      exact List.Perm.append_left _ List.perm_append_comm
    · have hrest := flatMap_setEntry k a l
      simp only [setEntry, List.find?_cons, he, decide_false, if_false, List.flatMap_cons, List.append_assoc]
      exact hrest.append_left e.2

/-- The groups hold every element once. -/
theorem flatMap_groupBy (key : α → κ) (l : List α) : ((groupBy key l).entries.flatMap Prod.snd).Perm l := by
  induction l using List.reverseRecOn with
  | nil => exact List.Perm.refl _
  | append_singleton l a ih =>
    have hpush : groupBy key (l ++ [a]) = push key (groupBy key l) a := by
      rw [groupBy, List.foldl_append]
      rfl
    rw [hpush]
    exact (flatMap_setEntry (key a) a (groupBy key l).entries).trans (ih.append_right [a])

/-- What the groups add up to is what the elements do. -/
theorem sum_groupBy {M : Type*} [AddCommMonoid M] (key : α → κ) (f : α → M) (l : List α) :
    ((groupBy key l).entries.map fun g => (g.2.map f).sum).sum = (l.map f).sum := by
  rw [← ((flatMap_groupBy key l).map f).sum_eq]
  induction (groupBy key l).entries with
  | nil => rfl
  | cons g entries ih => rw [List.map_cons, List.sum_cons, ih, List.flatMap_cons, List.map_append, List.sum_append]

/-- A group is what its key selects. -/
theorem eq_of_mem_groupBy {g : κ × List α} (h : g ∈ (groupBy key l).entries) :
    g.2 = l.filter (fun a => key a = g.1) ∧ g.2 ≠ [] := by
  have hget : (groupBy key l).get? g.1 = some g.2 := mem_entries.mp h
  rw [get?_groupBy] at hget
  split_ifs at hget with hne
  have heq := Option.some.inj hget
  exact ⟨heq.symm, heq ▸ hne⟩

theorem mem_keys_groupBy (key : α → κ) {a : α} (ha : a ∈ l) : key a ∈ (groupBy key l).keys := by
  rw [mem_keys, get?_groupBy, if_neg]
  · rfl
  · exact List.ne_nil_of_mem (List.mem_filter.mpr ⟨ha, by simp⟩)

/-- The keys of the groups of a kind that no empty group is of. -/
theorem mem_map_filter_groupBy {p : List α → Bool} (hp : p [] = false) {k : κ} :
    k ∈ ((groupBy key l).entries.filter fun g => p g.2).map Prod.fst ↔ p (l.filter fun a => key a = k) = true := by
  constructor
  · intro hk
    obtain ⟨g, hg, rfl⟩ := List.mem_map.mp hk
    obtain ⟨hg, hkind⟩ := List.mem_filter.mp hg
    rwa [← (eq_of_mem_groupBy hg).1]
  · intro hkind
    have hne : (l.filter fun a => key a = k) ≠ [] := by
      intro hnil
      rw [hnil, hp] at hkind
      exact absurd hkind Bool.false_ne_true
    have hget : (groupBy key l).get? k = some (l.filter fun a => key a = k) := by
      rw [get?_groupBy, if_neg hne]
    exact List.mem_map.mpr ⟨_, List.mem_filter.mpr ⟨mem_entries.mpr hget, hkind⟩, rfl⟩

/-- Of the groups whose keys are of a kind there is one at most, if no two elements have different keys of it. -/
theorem filter_groupBy {p : κ → Bool} {k : κ} (hk : p k = true) (hkey : ∀ a ∈ l, p (key a) = true → key a = k) :
    ((groupBy key l).entries.filter fun g => p g.1) =
      if (l.filter fun a => p (key a)) = [] then [] else [(k, l.filter fun a => p (key a))] := by
  have hkind : (l.filter fun a => p (key a)) = l.filter fun a => key a = k := by
    refine List.filter_congr fun a ha => ?_
    by_cases hpa : p (key a) = true
    · rw [hpa, decide_eq_true (hkey a ha hpa)]
    · have hne : key a ≠ k := fun heq => hpa (heq ▸ hk)
      rw [Bool.not_eq_true] at hpa
      rw [hpa, decide_eq_false hne]
  have hall : ∀ g ∈ (groupBy key l).entries.filter (fun g => p g.1), g = (k, l.filter fun a => key a = k) := by
    intro g hg
    obtain ⟨hg, hpg⟩ := List.mem_filter.mp hg
    obtain ⟨hgroup, hne⟩ := eq_of_mem_groupBy hg
    obtain ⟨a, ha⟩ := List.exists_mem_of_ne_nil _ hne
    rw [hgroup] at ha
    obtain ⟨ha, hfst⟩ := List.mem_filter.mp ha
    have hfst' : key a = g.1 := of_decide_eq_true hfst
    have hgk : g.1 = k := hfst' ▸ hkey a ha (by rwa [hfst'])
    exact Prod.ext hgk (by rw [hgroup, hgk])
  have hnodup : (((groupBy key l).entries.filter fun g => p g.1).map Prod.fst).Nodup :=
    (groupBy key l).nodup.sublist (List.filter_sublist.map Prod.fst)
  rw [hkind]
  split_ifs with hnil
  · refine List.eq_nil_iff_forall_not_mem.mpr fun g hg => ?_
    have hne := (eq_of_mem_groupBy (List.mem_filter.mp hg).1).2
    rw [hall g hg] at hne
    exact hne hnil
  · have hmem : (k, l.filter fun a => key a = k) ∈ (groupBy key l).entries.filter fun g => p g.1 := by
      refine List.mem_filter.mpr ⟨mem_entries.mpr ?_, hk⟩
      rw [get?_groupBy, if_neg hnil]
    have hrep := List.eq_replicate_of_mem hall
    rw [hrep] at hnodup hmem ⊢
    have hpos : 0 < ((groupBy key l).entries.filter fun g => p g.1).length := by
      rw [← hrep] at hmem
      exact List.length_pos_of_mem hmem
    rw [List.map_replicate, List.nodup_replicate] at hnodup
    have hone : ((groupBy key l).entries.filter fun g => p g.1).length = 1 := by omega
    rw [hone]
    rfl

/-! ## Accumulating -/

/-- What the elements of each key are folded into, in order, from one start. -/
def foldInto (key : α → κ) (f : β → α → β) (b₀ : β) (l : List α) : OrderedMap κ β :=
  l.foldl (fun m a => m.set (key a) (f ((m.get? (key a)).getD b₀) a)) empty

theorem get?_foldInto (key : α → κ) (f : β → α → β) (b₀ : β) (k : κ) (l : List α) :
    (foldInto key f b₀ l).get? k =
      if (l.filter fun a => key a = k) = [] then none else some ((l.filter fun a => key a = k).foldl f b₀) := by
  induction l using List.reverseRecOn with
  | nil => rfl
  | append_singleton l a ih =>
    have hset : foldInto key f b₀ (l ++ [a]) =
        (foldInto key f b₀ l).set (key a) (f (((foldInto key f b₀ l).get? (key a)).getD b₀) a) := by
      rw [foldInto, List.foldl_append]
      rfl
    rw [hset, get?_set]
    by_cases hk : key a = k
    · subst hk
      have hne : (l.filter fun b => key b = key a) ++ [a] ≠ [] := by simp
      rw [if_pos rfl, List.filter_append, List.filter_cons_of_pos (by simp), List.filter_nil, if_neg hne,
        List.foldl_append, ih]
      by_cases hl : (l.filter fun b => key b = key a) = []
      · rw [if_pos hl, hl]
        rfl
      · rw [if_neg hl]
        rfl
    · rw [if_neg hk, ih, List.filter_append, List.filter_cons_of_neg (by simpa using hk), List.filter_nil,
        List.append_nil]

end OrderedMap

end DTwin
