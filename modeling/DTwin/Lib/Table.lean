import Mathlib.Data.List.Basic
import Mathlib.Data.List.Nodup
import Mathlib.Data.List.Forall2
import Mathlib.Tactic.Common

/-!
# DTwin.Lib.Table — tables of rows under `UPDATE`, `INSERT` and partial unique indexes

A table is a list of rows.  `updateWhere p f` is `UPDATE … SET f WHERE p`; `INSERT` appends a row.

* `Grows R t t'`: `t'` is `t` with every row changed along `R`, followed by new rows.  It composes,
  so what a row can become over a run is the closure of what one statement can do to it.
* `UniqueOn q k i t`: rows in `q` with the same `k` have the same id `i` (a partial unique index
  over `k`).  An update that brings no row into `q` keeps it (`UniqueOn.updateWhere_of_mem`).
* `upsert key merge r`: `r` put in under its key (`mem_upsert_iff`), in place where the key is there.
* `updateChecked ck p f`: the same `UPDATE` on rows under a `CHECK`, which fails as a whole when a
  changed row would break it.

Nothing here knows about any particular schema.
-/

namespace DTwin.Table

variable {ρ κ ι : Type*}

/-- `UPDATE t SET f WHERE p`. -/
def updateWhere (p : ρ → Bool) (f : ρ → ρ) (t : List ρ) : List ρ :=
  t.map fun r => if p r then f r else r

theorem mem_updateWhere {p : ρ → Bool} {f : ρ → ρ} {t : List ρ} {r' : ρ} :
    r' ∈ updateWhere p f t ↔ ∃ r ∈ t, (if p r then f r else r) = r' := by
  simp [updateWhere]

/-- A row the update selects, or one it leaves alone. -/
theorem mem_updateWhere_cases {p : ρ → Bool} {f : ρ → ρ} {t : List ρ} {r' : ρ}
    (h : r' ∈ updateWhere p f t) :
    (∃ r ∈ t, p r = true ∧ r' = f r) ∨ (r' ∈ t ∧ p r' = false) := by
  obtain ⟨r, hr, rfl⟩ := mem_updateWhere.mp h
  cases hp : p r with
  | true => exact Or.inl ⟨r, hr, hp, by simp⟩
  | false => exact Or.inr ⟨by simpa using hr, by simpa using hp⟩

theorem mem_updateWhere_of_pos {p : ρ → Bool} {f : ρ → ρ} {t : List ρ} {r : ρ} (hr : r ∈ t)
    (hp : p r = true) : f r ∈ updateWhere p f t :=
  mem_updateWhere.mpr ⟨r, hr, by simp [hp]⟩

theorem mem_updateWhere_of_neg {p : ρ → Bool} {f : ρ → ρ} {t : List ρ} {r : ρ} (hr : r ∈ t)
    (hp : p r = false) : r ∈ updateWhere p f t :=
  mem_updateWhere.mpr ⟨r, hr, by simp [hp]⟩

/-- A column the update does not touch. -/
theorem map_updateWhere {p : ρ → Bool} {f : ρ → ρ} {i : ρ → ι} (hf : ∀ r, i (f r) = i r)
    (t : List ρ) : (updateWhere p f t).map i = t.map i := by
  simp only [updateWhere, List.map_map]
  refine List.map_congr_left fun r _ => ?_
  simp only [Function.comp_apply]
  split_ifs
  · exact hf r
  · rfl

/-- With unique ids, a row is determined by its id. -/
theorem eq_of_id_eq {i : ρ → ι} {t : List ρ} (h : (t.map i).Nodup) {r s : ρ} (hr : r ∈ t)
    (hs : s ∈ t) (he : i r = i s) : r = s :=
  List.inj_on_of_nodup_map h hr hs he

/-! ### Growth -/

/-- `t'` is `t` with every row changed along `R`, followed by new rows. -/
def Grows (R : ρ → ρ → Prop) (t t' : List ρ) : Prop :=
  ∃ u new, List.Forall₂ R t u ∧ t' = u ++ new

theorem Grows.refl {R : ρ → ρ → Prop} (hR : ∀ r, R r r) (t : List ρ) : Grows R t t :=
  ⟨t, [], List.forall₂_same.mpr fun r _ => hR r, by simp⟩

theorem Grows.append {R : ρ → ρ → Prop} (hR : ∀ r, R r r) (t new : List ρ) :
    Grows R t (t ++ new) :=
  ⟨t, new, List.forall₂_same.mpr fun r _ => hR r, rfl⟩

theorem Grows.trans {R : ρ → ρ → Prop} (hR : ∀ {a b c}, R a b → R b c → R a c)
    {t t' t'' : List ρ} (h₁ : Grows R t t') (h₂ : Grows R t' t'') : Grows R t t'' := by
  obtain ⟨u, new, hu, rfl⟩ := h₁
  obtain ⟨v, new', hv, rfl⟩ := h₂
  obtain ⟨v₁, v₂, hv₁, hv₂, rfl⟩ : ∃ v₁ v₂, List.Forall₂ R u v₁ ∧ List.Forall₂ R new v₂ ∧
      v = v₁ ++ v₂ := by
    refine ⟨v.take u.length, v.drop u.length, ?_, ?_, (List.take_append_drop _ _).symm⟩
    · simpa using List.forall₂_take u.length hv
    · simpa using List.forall₂_drop u.length hv
  refine ⟨v₁, v₂ ++ new', ?_, by simp⟩
  clear hv hv₂
  induction hu generalizing v₁ with
  | nil => cases hv₁; exact .nil
  | cons hab _ ih =>
    cases hv₁ with
    | cons hbc hrest => exact .cons (hR hab hbc) (ih _ hrest)

theorem Grows.updateWhere_of_mem {R : ρ → ρ → Prop} (hR : ∀ r, R r r) {p : ρ → Bool} {f : ρ → ρ}
    {t : List ρ} (hf : ∀ r ∈ t, p r = true → R r (f r)) : Grows R t (updateWhere p f t) := by
  refine ⟨Table.updateWhere p f t, [], ?_, by simp⟩
  rw [Table.updateWhere, List.forall₂_map_right_iff, List.forall₂_same]
  intro r hr
  cases hp : p r with
  | true => simpa [hp] using hf r hr hp
  | false => simpa [hp] using hR r

theorem Grows.updateWhere {R : ρ → ρ → Prop} (hR : ∀ r, R r r) {p : ρ → Bool} {f : ρ → ρ}
    (hf : ∀ r, p r = true → R r (f r)) (t : List ρ) : Grows R t (updateWhere p f t) :=
  .updateWhere_of_mem hR fun r _ => hf r

/-- Every old row is still there, changed along `R`. -/
theorem Grows.exists_of_mem {R : ρ → ρ → Prop} {t t' : List ρ} (h : Grows R t t') {r : ρ}
    (hr : r ∈ t) : ∃ r' ∈ t', R r r' := by
  obtain ⟨u, new, hu, rfl⟩ := h
  induction hu with
  | nil => simp at hr
  | @cons a b l₁ l₂ hab hrest ih =>
    rcases List.mem_cons.mp hr with rfl | hr
    · exact ⟨b, by simp, hab⟩
    · obtain ⟨r', hr', hR⟩ := ih hr
      exact ⟨r', List.mem_cons_of_mem _ hr', hR⟩

/-! ### Partial unique indexes -/

/-- Rows in `q` with the same key `k` have the same id `i`. -/
def UniqueOn (q : ρ → Prop) (k : ρ → κ) (i : ρ → ι) (t : List ρ) : Prop :=
  ∀ r ∈ t, ∀ s ∈ t, q r → q s → k r = k s → i r = i s

/-- An update that keeps key and id and brings no row into `q` keeps the index. -/
theorem UniqueOn.updateWhere_of_mem {q : ρ → Prop} {k : ρ → κ} {i : ρ → ι} {t : List ρ}
    (h : UniqueOn q k i t) {p : ρ → Bool} {f : ρ → ρ} (hk : ∀ r, k (f r) = k r)
    (hi : ∀ r, i (f r) = i r) (hq : ∀ r ∈ t, p r = true → q (f r) → q r) :
    UniqueOn q k i (updateWhere p f t) := by
  have old : ∀ r' ∈ Table.updateWhere p f t, q r' →
      ∃ r ∈ t, q r ∧ k r' = k r ∧ i r' = i r := by
    intro r' hr' hqr
    rcases mem_updateWhere_cases hr' with ⟨r, hr, hp, rfl⟩ | ⟨hr, -⟩
    · exact ⟨r, hr, hq r hr hp hqr, hk r, hi r⟩
    · exact ⟨r', hr, hqr, rfl, rfl⟩
  intro r' hr' s' hs' hqr hqs hks
  obtain ⟨r, hr, hqr, hkr, hir⟩ := old r' hr' hqr
  obtain ⟨s, hs, hqs, hks', his⟩ := old s' hs' hqs
  rw [hir, his]
  exact h r hr s hs hqr hqs (by rw [← hkr, hks, hks'])

/-- A new row may be inserted when no row of `q` has its key. -/
theorem UniqueOn.append {q : ρ → Prop} {k : ρ → κ} {i : ρ → ι} {t : List ρ}
    (h : UniqueOn q k i t) {n : ρ} (hn : ∀ r ∈ t, q r → k r ≠ k n) :
    UniqueOn q k i (t ++ [n]) := by
  intro r hr s hs hqr hqs hk
  simp only [List.mem_append, List.mem_singleton] at hr hs
  rcases hr with hr | rfl <;> rcases hs with hs | rfl
  · exact h r hr s hs hqr hqs hk
  · exact absurd hk (hn r hr hqr)
  · exact absurd hk.symm (hn s hs hqs)
  · rfl

/-- A new row outside `q` does not matter. -/
theorem UniqueOn.append_of_not {q : ρ → Prop} {k : ρ → κ} {i : ρ → ι} {t : List ρ} {n : ρ}
    (hn : ¬ q n) (h : UniqueOn q k i t) : UniqueOn q k i (t ++ [n]) := by
  intro r hr s hs hqr hqs hk
  simp only [List.mem_append, List.mem_singleton] at hr hs
  rcases hr with hr | rfl
  · rcases hs with hs | rfl
    · exact h r hr s hs hqr hqs hk
    · exact absurd hqs hn
  · exact absurd hqr hn

/-! ### Checks -/

section
variable {ck : ρ → Prop} [DecidablePred ck]

/-- `UPDATE t SET f WHERE p` on rows under a `CHECK`: `none` when a changed row breaks it. -/
def updateChecked (ck : ρ → Prop) [DecidablePred ck] (p : ρ → Bool) (f : ρ → ρ) :
    List {r // ck r} → Option (List {r // ck r})
  | [] => some []
  | r :: t =>
    if p r then
      if h : ck (f r) then (updateChecked ck p f t).map (⟨f r, h⟩ :: ·) else none
    else (updateChecked ck p f t).map (r :: ·)

/-- An update that succeeds has changed the rows it selects, and no other. -/
theorem updateChecked_forall₂ {p : ρ → Bool} {f : ρ → ρ} : ∀ {t t' : List {r // ck r}},
    updateChecked ck p f t = some t' →
    List.Forall₂ (fun r r' : {r // ck r} => r'.1 = if p r then f r else r.1) t t'
  | [], t', h => by
    cases h
    exact .nil
  | r :: t, t', h => by
    unfold updateChecked at h
    by_cases hp : p r = true
    · rw [if_pos hp] at h
      by_cases hck : ck (f r)
      · rw [dif_pos hck] at h
        obtain ⟨u, hu, rfl⟩ := Option.map_eq_some_iff.mp h
        exact .cons (if_pos hp).symm (updateChecked_forall₂ hu)
      · rw [dif_neg hck] at h
        cases h
    · rw [if_neg hp] at h
      obtain ⟨u, hu, rfl⟩ := Option.map_eq_some_iff.mp h
      exact .cons (if_neg hp).symm (updateChecked_forall₂ hu)

/-- A row the update selects, or one it leaves alone. -/
theorem mem_updateChecked_cases {p : ρ → Bool} {f : ρ → ρ} {t t' : List {r // ck r}}
    (h : updateChecked ck p f t = some t') {r' : {r // ck r}} (hr' : r' ∈ t') :
    (∃ r ∈ t, p r = true ∧ r'.1 = f r) ∨ (r' ∈ t ∧ p r' = false) := by
  have hall := updateChecked_forall₂ h
  clear h
  induction hall with
  | nil => cases hr'
  | @cons a b l₁ l₂ hab _ ih =>
    rcases List.mem_cons.mp hr' with rfl | hr'
    · cases hp : p a with
      | true => exact Or.inl ⟨a, List.mem_cons_self, hp, by simpa [hp] using hab⟩
      | false =>
        obtain rfl : r' = a := Subtype.ext (by simpa [hp] using hab)
        exact Or.inr ⟨List.mem_cons_self, hp⟩
    · rcases ih hr' with ⟨r, hr, hp⟩ | ⟨hr, hp⟩
      · exact Or.inl ⟨r, List.mem_cons_of_mem _ hr, hp⟩
      · exact Or.inr ⟨List.mem_cons_of_mem _ hr, hp⟩

/-- A column the update does not touch. -/
theorem map_updateChecked {p : ρ → Bool} {f : ρ → ρ} {i : ρ → ι} (hf : ∀ r, i (f r) = i r)
    {t t' : List {r // ck r}} (h : updateChecked ck p f t = some t') :
    (t'.map fun r => i r.1) = t.map fun r => i r.1 := by
  have hall := updateChecked_forall₂ h
  clear h
  induction hall with
  | nil => rfl
  | @cons a b l₁ l₂ hab _ ih =>
    rw [List.map_cons, List.map_cons, ih, hab]
    split_ifs
    · rw [hf]
    · rfl

end

/-! ## Upserts -/

section Upsert

variable [DecidableEq κ] (key : ρ → κ) (merge : ρ → ρ → ρ) (r : ρ)

/-- The row of `r`'s key becomes what it and `r` are merged to; `r` is put behind the others where there is none. -/
def upsert : List ρ → List ρ
  | [] => [r]
  | s :: t => if key s = key r then merge s r :: t else s :: upsert t

variable {key merge r} (hmerge : ∀ s, key s = key r → key (merge s r) = key r)

include hmerge in
theorem map_upsert (t : List ρ) :
    (upsert key merge r t).map key = if key r ∈ t.map key then t.map key else t.map key ++ [key r] := by
  induction t with
  | nil => rfl
  | cons s t ih =>
    by_cases hs : key s = key r
    · rw [upsert, if_pos hs, List.map_cons, List.map_cons, hmerge s hs, ← hs, if_pos List.mem_cons_self]
    · have hmem : key r ∈ key s :: t.map key ↔ key r ∈ t.map key :=
        List.mem_cons.trans (or_iff_right fun h => hs h.symm)
      rw [upsert, if_neg hs, List.map_cons, ih, List.map_cons]
      by_cases hr : key r ∈ t.map key
      · rw [if_pos hr, if_pos (List.mem_cons_of_mem _ hr)]
      · rw [if_neg hr, if_neg (fun h => hr (hmem.mp h)), List.cons_append]

include hmerge in
theorem nodup_upsert {t : List ρ} (ht : (t.map key).Nodup) : ((upsert key merge r t).map key).Nodup := by
  rw [map_upsert hmerge]
  split_ifs with hr
  · exact ht
  · exact List.nodup_append.mpr ⟨ht, List.nodup_singleton _, fun a ha b hb => by
      rw [List.mem_singleton.mp hb]
      exact fun h => hr (h ▸ ha)⟩

/-- With a row of each key once, a row that is put in takes the place of its key's row. -/
theorem mem_upsert_iff {t : List ρ} (ht : (t.map key).Nodup) {s : ρ} :
    s ∈ upsert key (fun _ r => r) r t ↔ s = r ∨ s ∈ t ∧ key s ≠ key r := by
  induction t with
  | nil => rw [upsert, List.mem_singleton, or_iff_left fun h => List.not_mem_nil h.1]
  | cons u t ih =>
    rw [List.map_cons, List.nodup_cons] at ht
    by_cases hu : key u = key r
    · have hnot : ∀ s ∈ t, key s ≠ key r := fun s hs h => ht.1 (List.mem_map.mpr ⟨s, hs, h.trans hu.symm⟩)
      rw [upsert, if_pos hu, List.mem_cons]
      refine or_congr_right ⟨fun hs => ⟨List.mem_cons_of_mem _ hs, hnot s hs⟩, fun hs => ?_⟩
      exact (List.mem_cons.mp hs.1).resolve_left fun h => hs.2 (h ▸ hu)
    · rw [upsert, if_neg hu, List.mem_cons, ih ht.2, List.mem_cons, or_and_right, or_left_comm]
      refine or_congr_right (or_congr_left ⟨fun h => ⟨h, h ▸ hu⟩, And.left⟩)

end Upsert

end DTwin.Table
