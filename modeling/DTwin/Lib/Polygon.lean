import DTwin.Lib.Numerals
import Mathlib.Algebra.BigOperators.Group.List.Basic
import Mathlib.Analysis.Convex.Hull
import Mathlib.Analysis.Real.Sqrt
import Mathlib.Data.List.Perm.Subperm
import Mathlib.Data.List.Rotate
import Mathlib.Tactic.Linarith
import Mathlib.Tactic.LinearCombination

/-!
# DTwin.Lib.Polygon — rings of points and how they are written

* `edges v`: the edges of the ring with these vertices, `sides v` those that are not of length zero.  Written from
  another vertex it has the same edges, written backwards the same the other way round (`edges_rotate`,
  `edges_reverse`).
* `Writes v r`: the list `r` is the ring, from any vertex, either way round, closed or not.  Closed up it is a closed
  list, whose sides are those of the ring, in one direction or the other (`closeUp_of_writes`).
* `IsConvex v`: every edge has the vertices on one side of it.  With an area the mean of the vertices is strictly on
  that side (`mean_inside`).
-/

namespace DTwin.Polygon

variable {α : Type*}

/-! ## Edges -/

def edges (v : List α) : List (α × α) := v.zip (v.rotate 1)

/-- Neighbours in a list. -/
def pairs (l : List α) : List (α × α) := l.zip l.tail

/-- The list that ends where it began. -/
def close (v : List α) : List α := v ++ v.head?.toList

theorem pairs_close (v : List α) : pairs (close v) = edges v := by
  cases v with
  | nil => rfl
  | cons a v =>
    have hlength : (a :: v).length = (v ++ [a]).length := by simp
    show ((a :: v) ++ [a]).zip (v ++ [a]) = (a :: v).zip ((a :: v).rotate 1)
    rw [List.rotate_cons_succ, List.rotate_zero]
    have hzip : ((a :: v) ++ [a]).zip ((v ++ [a]) ++ []) = (a :: v).zip (v ++ [a]) ++ [a].zip [] :=
      List.zip_append hlength
    rw [List.append_nil, List.zip_nil_right, List.append_nil] at hzip
    exact hzip

theorem dropLast_close {v : List α} (hv : v ≠ []) : (close v).dropLast = v := by
  cases v with
  | nil => exact absurd rfl hv
  | cons a v => exact List.dropLast_concat

theorem length_close {v : List α} (hv : v ≠ []) : (close v).length = v.length + 1 := by
  cases v with
  | nil => exact absurd rfl hv
  | cons a v => simp [close]

/-- A vertex that comes twice in a row is an edge of length zero. -/
theorem edges_concat (a : α) (v : List α) : edges (a :: v ++ [a]) = edges (a :: v) ++ [(a, a)] := by
  have hlength : (a :: v).length = (v ++ [a]).length := by simp
  show (a :: v ++ [a]).zip ((a :: (v ++ [a])).rotate 1) = (a :: v).zip ((a :: v).rotate 1) ++ [(a, a)]
  rw [List.rotate_cons_succ, List.rotate_zero, List.rotate_cons_succ, List.rotate_zero, List.zip_append hlength]
  rfl

/-- From another vertex on. -/
theorem edges_rotate (v : List α) (k : ℕ) : edges (v.rotate k) = (edges v).rotate k := by
  unfold edges
  rw [List.rotate_rotate, Nat.add_comm, ← List.rotate_rotate]
  exact (List.zipWith_rotate_distrib Prod.mk v (v.rotate 1) k (List.length_rotate v 1).symm).symm

/-- The other way round. -/
theorem edges_reverse (v : List α) : (edges v.reverse).Perm ((edges v).map Prod.swap) := by
  have hback : v.reverse = (v.rotate 1).reverse.rotate 1 := by
    rcases v with - | ⟨a, v⟩
    · rfl
    · rw [List.rotate_cons_succ, List.rotate_zero, List.reverse_append, List.reverse_singleton, List.singleton_append,
        List.rotate_cons_succ, List.rotate_zero, List.reverse_cons]
  have hlength : (v.rotate 1).length = v.length := List.length_rotate v 1
  have hedges : edges v.reverse = (((v.rotate 1).zip v).reverse).rotate 1 := by
    have hzip : ((v.rotate 1).zip v).reverse = (v.rotate 1).reverse.zip v.reverse := List.reverse_zipWith hlength
    rw [hzip]
    unfold edges
    nth_rewrite 1 [hback]
    exact (List.zipWith_rotate_distrib Prod.mk _ _ 1 (by simp)).symm
  rw [hedges]
  refine (List.rotate_perm _ 1).trans ((List.reverse_perm _).trans ?_)
  unfold edges
  rw [List.zip_swap]

/-! ## Sides -/

section Sides

variable [DecidableEq α]

/-- The edges that are not of length zero. -/
def sides (v : List α) : List (α × α) := (edges v).filter fun e => e.1 ≠ e.2

/-- The list closed, unless it is. -/
def closeUp (r : List α) : List α := if 1 < r.length ∧ r.head? ≠ r.getLast? then close r else r

/-- The ring, from any vertex, either way round, closed or not. -/
def Writes (v r : List α) : Prop :=
  ∃ k w, (w = v.rotate k ∨ w = (v.rotate k).reverse) ∧ (r = w ∨ r = close w)

/-- **However it is written**, a ring is closed up to a closed list, of the same vertices and with the same sides, in
one direction or the other. -/
theorem closeUp_of_writes {v r : List α} (hv : 2 ≤ v.length) (h : Writes v r) :
    ∃ u, closeUp r = close u ∧ (∀ p, p ∈ u ↔ p ∈ v) ∧
      ((sides u).Perm (sides v) ∨ (sides u).Perm ((sides v).map Prod.swap)) := by
  obtain ⟨k, w, hw, hr⟩ := h
  have hmem : ∀ p, p ∈ w ↔ p ∈ v := by
    intro p
    rcases hw with rfl | rfl
    · exact List.mem_rotate
    · rw [List.mem_reverse, List.mem_rotate]
  have hsides : (sides w).Perm (sides v) ∨ (sides w).Perm ((sides v).map Prod.swap) := by
    have hrotate : (edges (v.rotate k)).Perm (edges v) := by
      rw [edges_rotate]
      exact List.rotate_perm _ k
    rcases hw with rfl | rfl
    · exact Or.inl (hrotate.filter _)
    · refine Or.inr ?_
      have hback := ((edges_reverse (v.rotate k)).trans (hrotate.map Prod.swap)).filter fun e => decide (e.1 ≠ e.2)
      rw [List.filter_map] at hback
      refine hback.trans (List.Perm.map _ (List.Perm.of_eq (List.filter_congr fun e _ => ?_)))
      exact decide_eq_decide.mpr ⟨fun h h' => h h'.symm, fun h h' => h h'.symm⟩
  have hlength : 2 ≤ w.length := by
    rcases hw with rfl | rfl
    · rwa [List.length_rotate]
    · rwa [List.length_reverse, List.length_rotate]
  rcases w with - | ⟨a, w⟩
  · exact absurd hlength (by simp)
  rcases hr with rfl | rfl
  · by_cases hopen : (a :: w).head? ≠ (a :: w).getLast?
    · exact ⟨a :: w, if_pos ⟨hlength, hopen⟩, hmem, hsides⟩
    · -- the last vertex is the first again
      have hclosed : closeUp (a :: w) = a :: w := if_neg fun h => hopen h.2
      have hlast : (a :: w).getLast? = some a := (not_not.mp hopen).symm
      obtain ⟨u, hu⟩ := List.getLast?_eq_some_iff.mp hlast
      have hne : u ≠ [] := by
        rintro rfl
        rw [hu] at hlength
        exact absurd hlength (by simp)
      obtain ⟨u', rfl⟩ : ∃ u', u = a :: u' := by
        rcases u with - | ⟨b, u'⟩
        · exact absurd rfl hne
        · rw [List.cons_append, List.cons.injEq] at hu
          exact ⟨u', by rw [hu.1]⟩
      have hclose : a :: w = close (a :: u') := hu
      refine ⟨a :: u', hclosed.trans hclose, fun p => ?_, ?_⟩
      · rw [← hmem, hu, List.mem_append, List.mem_singleton]
        exact ⟨Or.inl, fun h => h.elim id fun h => h ▸ List.mem_cons_self⟩
      · have hsame : sides (a :: w) = sides (a :: u') := by
          unfold sides
          rw [hu, edges_concat, List.filter_append]
          simp
        rwa [← hsame]
  · refine ⟨a :: w, if_neg fun h => h.2 ?_, hmem, hsides⟩
    show some a = ((a :: w) ++ [a]).getLast?
    rw [List.getLast?_concat]

end Sides

/-! ## Convex rings in the plane -/

abbrev Point := ℝ × ℝ

/-- Twice the area of the triangle, positive if it is counterclockwise. -/
def cross (a b p : Point) : ℝ := (b.1 - a.1) * (p.2 - a.2) - (b.2 - a.2) * (p.1 - a.1)

/-- The area, positive if the ring is counterclockwise. -/
noncomputable def area (v : List Point) : ℝ := ((edges v).map fun e => (e.1.1 * e.2.2 - e.2.1 * e.1.2) / 2).sum

/-- Every edge has the vertices on one side of it. -/
def IsConvex (v : List Point) : Prop :=
  ∀ e ∈ edges v, (∀ p ∈ v, 0 ≤ cross e.1 e.2 p) ∨ ∀ p ∈ v, cross e.1 e.2 p ≤ 0

noncomputable def mean (v : List Point) : Point :=
  ((v.map Prod.fst).sum / v.length, (v.map Prod.snd).sum / v.length)

theorem cross_swap (a b p : Point) : cross b a p = -cross a b p := by
  unfold cross
  ring

/-- What is summed round the ring comes back to where it began. -/
theorem sum_round (v : List α) (f : α → ℝ) : ((edges v).map fun e => f e.1 - f e.2).sum = 0 := by
  have hlength : v.length = (v.rotate 1).length := (List.length_rotate v 1).symm
  have hfst : (edges v).map Prod.fst = v := List.map_fst_zip hlength.le
  have hsnd : (edges v).map Prod.snd = v.rotate 1 := List.map_snd_zip hlength.ge
  have hsum : ∀ l : List (α × α), (l.map fun e => f e.1 - f e.2).sum =
      ((l.map Prod.fst).map f).sum - ((l.map Prod.snd).map f).sum := by
    intro l
    induction l with
    | nil => simp
    | cons e l ih =>
      simp only [List.map_cons, List.sum_cons, ih]
      ring
  rw [hsum, hfst, hsnd, ((List.rotate_perm v 1).map f).sum_eq, sub_self]

theorem mem_of_mem_edges {v : List α} {e : α × α} (he : e ∈ edges v) : e.1 ∈ v ∧ e.2 ∈ v :=
  ⟨(List.of_mem_zip he).1, List.mem_rotate.mp (List.of_mem_zip he).2⟩

section Area

variable {v : List Point}

/-- **Off the line**: a ring with an area is on no line. -/
theorem exists_off_line (harea : area v ≠ 0) {a b : Point} (hab : a ≠ b) : ∃ p ∈ v, cross a b p ≠ 0 := by
  by_contra hline
  have hon : ∀ p ∈ v, cross a b p = 0 := fun p hp => not_not.mp fun hne => hline ⟨p, hp, hne⟩
  have hx : (b.1 - a.1) * area v = 0 := by
    have hterm : ∀ e ∈ edges v, (b.1 - a.1) * ((e.1.1 * e.2.2 - e.2.1 * e.1.2) / 2) =
        ((b.1 - a.1) * a.2 - (b.2 - a.2) * a.1) / 2 * e.1.1 - ((b.1 - a.1) * a.2 - (b.2 - a.2) * a.1) / 2 * e.2.1 := by
      intro e he
      have h₁ := hon e.1 (mem_of_mem_edges he).1
      have h₂ := hon e.2 (mem_of_mem_edges he).2
      unfold cross at h₁ h₂
      linear_combination e.1.1 / 2 * h₂ - e.2.1 / 2 * h₁
    rw [area, ← List.sum_map_mul_left, List.map_congr_left hterm]
    exact sum_round v fun p => ((b.1 - a.1) * a.2 - (b.2 - a.2) * a.1) / 2 * p.1
  have hy : (b.2 - a.2) * area v = 0 := by
    have hterm : ∀ e ∈ edges v, (b.2 - a.2) * ((e.1.1 * e.2.2 - e.2.1 * e.1.2) / 2) =
        ((b.1 - a.1) * a.2 - (b.2 - a.2) * a.1) / 2 * e.1.2 - ((b.1 - a.1) * a.2 - (b.2 - a.2) * a.1) / 2 * e.2.2 := by
      intro e he
      have h₁ := hon e.1 (mem_of_mem_edges he).1
      have h₂ := hon e.2 (mem_of_mem_edges he).2
      unfold cross at h₁ h₂
      linear_combination e.1.2 / 2 * h₂ - e.2.2 / 2 * h₁
    rw [area, ← List.sum_map_mul_left, List.map_congr_left hterm]
    exact sum_round v fun p => ((b.1 - a.1) * a.2 - (b.2 - a.2) * a.1) / 2 * p.2
  apply hab
  refine Prod.ext ?_ ?_
  · linarith [(mul_eq_zero.mp hx).resolve_right harea]
  · linarith [(mul_eq_zero.mp hy).resolve_right harea]

/-- A ring with an area has a side. -/
theorem exists_side (harea : area v ≠ 0) : ∃ e ∈ edges v, e.1 ≠ e.2 := by
  by_contra hnone
  apply harea
  refine List.sum_eq_zero fun x hx => ?_
  obtain ⟨e, he, rfl⟩ := List.mem_map.mp hx
  have hpoint : e.1 = e.2 := not_not.mp fun hne => hnone ⟨e, he, hne⟩
  rw [hpoint]
  ring

/-- A ring with an area has three vertices, however often they come. -/
theorem three_le_length (harea : area v ≠ 0) {u : List Point} (hu : ∀ p ∈ v, p ∈ u) : 3 ≤ u.length := by
  obtain ⟨⟨a, b⟩, he, hab⟩ := exists_side harea
  obtain ⟨p, hp, hoff⟩ := exists_off_line harea hab
  obtain ⟨ha, hb⟩ := mem_of_mem_edges he
  have hnodup : [a, b, p].Nodup := by
    have hap : a ≠ p := by
      rintro rfl
      exact hoff (by unfold cross; ring)
    have hbp : b ≠ p := by
      rintro rfl
      exact hoff (by unfold cross; ring)
    simp [hab, hap, hbp]
  have hsubset : [a, b, p] ⊆ u := by
    intro x hx
    simp only [List.mem_cons, List.not_mem_nil, or_false] at hx
    rcases hx with rfl | rfl | rfl
    · exact hu _ ha
    · exact hu _ hb
    · exact hu _ hp
  exact (List.subperm_of_subset hnodup hsubset).length_le

theorem cross_mean (a b : Point) {u : List Point} (hu : u ≠ []) :
    u.length * cross a b (mean u) = (u.map (cross a b)).sum := by
  have hsum : (u.map (cross a b)).sum = (b.1 - a.1) * ((u.map Prod.snd).sum - u.length * a.2) -
      (b.2 - a.2) * ((u.map Prod.fst).sum - u.length * a.1) := by
    clear hu
    induction u with
    | nil => simp
    | cons p u ih =>
      rw [List.map_cons, List.sum_cons, ih]
      simp only [List.map_cons, List.sum_cons, List.length_cons, Nat.cast_add, Nat.cast_one, cross]
      ring
  have hlength : (u.length : ℝ) ≠ 0 := Nat.cast_ne_zero.mpr (List.length_pos_iff.mpr hu).ne'
  rw [hsum]
  unfold cross mean
  field_simp

/-- **The mean of the vertices is inside**: if they are all on one side of a line, and not all on it, so is the mean,
strictly. -/
theorem mean_inside {a b : Point} {u : List Point} (hside : ∀ p ∈ u, 0 ≤ cross a b p)
    (hoff : ∃ p ∈ u, cross a b p ≠ 0) : 0 < cross a b (mean u) := by
  obtain ⟨p, hp, hne⟩ := hoff
  have hu : u ≠ [] := List.ne_nil_of_mem hp
  have hlength : (0 : ℝ) < u.length := Nat.cast_pos.mpr (List.length_pos_iff.mpr hu)
  have hsum : 0 < (u.map (cross a b)).sum := by
    refine lt_of_lt_of_le (lt_of_le_of_ne (hside p hp) hne.symm) ?_
    refine List.single_le_sum (fun x hx => ?_) _ (List.mem_map_of_mem hp)
    obtain ⟨q, hq, rfl⟩ := List.mem_map.mp hx
    exact hside q hq
  rw [← cross_mean a b hu] at hsum
  exact pos_of_mul_pos_right hsum hlength.le

end Area

/-! ## Outward normals -/

noncomputable def mid (e : Point × Point) : Point := ((e.1.1 + e.2.1) / 2, (e.1.2 + e.2.2) / 2)

/-- A unit vector across the edge that points out of the polygon with these vertices. -/
structure PointsOut (v : List Point) (e : Point × Point) (n : Point) : Prop where
  unit : n.1 ^ 2 + n.2 ^ 2 = 1
  across : n.1 * (e.2.1 - e.1.1) + n.2 * (e.2.2 - e.1.2) = 0
  outward : ∀ p ∈ convexHull ℝ {p | p ∈ v}, n.1 * (p.1 - (mid e).1) + n.2 * (p.2 - (mid e).2) ≤ 0

/-- The polygon is on the side of a line on which its vertices are. -/
theorem outward_of_vertices {v : List Point} {m n : Point} (h : ∀ p ∈ v, n.1 * (p.1 - m.1) + n.2 * (p.2 - m.2) ≤ 0) :
    ∀ p ∈ convexHull ℝ {p | p ∈ v}, n.1 * (p.1 - m.1) + n.2 * (p.2 - m.2) ≤ 0 := by
  have hlinear : IsLinearMap ℝ fun p : Point => n.1 * p.1 + n.2 * p.2 := by
    refine ⟨fun p q => ?_, fun c p => ?_⟩
    · simp only [Prod.fst_add, Prod.snd_add]
      ring
    · simp only [Prod.smul_fst, Prod.smul_snd, smul_eq_mul]
      ring
  have hhalf : convexHull ℝ {p | p ∈ v} ⊆ {p : Point | n.1 * p.1 + n.2 * p.2 ≤ n.1 * m.1 + n.2 * m.2} := by
    refine convexHull_min (fun p hp => ?_) (convex_halfSpace_le hlinear _)
    have hside := h p hp
    show n.1 * p.1 + n.2 * p.2 ≤ _
    linarith
  intro p hp
  have hside : n.1 * p.1 + n.2 * p.2 ≤ n.1 * m.1 + n.2 * m.2 := hhalf hp
  linarith

/-! ## Distances -/

noncomputable def hypot (x y : ℝ) : ℝ := √(x ^ 2 + y ^ 2)

/-- Within a distance of the outline. -/
def Near (w : List Point) (tolerance : ℝ) (p : Point) : Prop :=
  ∃ e ∈ edges w, ∃ q ∈ segment ℝ e.1 e.2, hypot (p.1 - q.1) (p.2 - q.2) ≤ tolerance

theorem hypot_eq_zero {x y : ℝ} : hypot x y = 0 ↔ x = 0 ∧ y = 0 := by
  rw [hypot, Real.sqrt_eq_zero (by positivity)]
  constructor
  · intro h
    constructor <;> nlinarith [sq_nonneg x, sq_nonneg y]
  · rintro ⟨rfl, rfl⟩
    ring

theorem hypot_pos {a b : Point} (hab : a ≠ b) : 0 < hypot (b.1 - a.1) (b.2 - a.2) := by
  refine lt_of_le_of_ne (Real.sqrt_nonneg _) fun h => hab ?_
  obtain ⟨hx, hy⟩ := hypot_eq_zero.mp h.symm
  exact Prod.ext (by linarith) (by linarith)

/-- Near a side, or near a vertex. -/
theorem near_iff {w : List Point} {tolerance : ℝ} {p : Point} : Near w tolerance p ↔
    (∃ e ∈ sides w, ∃ q ∈ segment ℝ e.1 e.2, hypot (p.1 - q.1) (p.2 - q.2) ≤ tolerance) ∨
      ∃ q ∈ w, hypot (p.1 - q.1) (p.2 - q.2) ≤ tolerance := by
  constructor
  · rintro ⟨e, he, q, hq, hle⟩
    by_cases hside : e.1 = e.2
    · rw [hside, segment_same] at hq
      obtain rfl := Set.mem_singleton_iff.mp hq
      exact Or.inr ⟨e.2, (mem_of_mem_edges he).2, hle⟩
    · exact Or.inl ⟨e, List.mem_filter.mpr ⟨he, decide_eq_true hside⟩, q, hq, hle⟩
  · rintro (⟨e, he, q, hq, hle⟩ | ⟨q, hq, hle⟩)
    · exact ⟨e, (List.mem_filter.mp he).1, q, hq, hle⟩
    · have hfst : (edges w).map Prod.fst = w := List.map_fst_zip (List.length_rotate w 1).ge
      rw [← hfst] at hq
      obtain ⟨e, he, rfl⟩ := List.mem_map.mp hq
      exact ⟨e, he, e.1, left_mem_segment ℝ e.1 e.2, hle⟩

/-- The outline is the same however it is written. -/
theorem near_congr {u w : List Point} (hmem : ∀ p, p ∈ u ↔ p ∈ w)
    (hsides : (sides u).Perm (sides w) ∨ (sides u).Perm ((sides w).map Prod.swap)) (tolerance : ℝ) (p : Point) :
    Near u tolerance p ↔ Near w tolerance p := by
  have hvertex : (∃ q ∈ u, hypot (p.1 - q.1) (p.2 - q.2) ≤ tolerance) ↔
      ∃ q ∈ w, hypot (p.1 - q.1) (p.2 - q.2) ≤ tolerance := exists_congr fun q => by rw [hmem q]
  rw [near_iff, near_iff, hvertex]
  refine or_congr_left ?_
  rcases hsides with hsame | hback
  · exact exists_congr fun e => by rw [hsame.mem_iff]
  · constructor
    · rintro ⟨e, he, q, hq, hle⟩
      obtain ⟨e', he', rfl⟩ := List.mem_map.mp (hback.mem_iff.mp he)
      exact ⟨e', he', q, segment_symm ℝ e'.1 e'.2 ▸ hq, hle⟩
    · rintro ⟨e, he, q, hq, hle⟩
      refine ⟨e.swap, hback.mem_iff.mpr (List.mem_map_of_mem he), q, ?_, hle⟩
      rw [segment_symm]
      exact hq

end DTwin.Polygon
