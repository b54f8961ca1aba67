import Mathlib.Algebra.Order.Field.Basic
import Mathlib.Data.List.Sort
import Mathlib.Tactic.FieldSimp
import Mathlib.Tactic.Linarith
import Mathlib.Tactic.Ring

/-!
# DTwin.Lib.Polyline — linear interpolation through points

The polyline through points in increasing order, held constant beyond the first and the last.  Points that lie on a
polyline can be added to it and change nothing (`polyline_eq_of_sublist`), and no others can: so filling the gaps of a
series with a constant is harmless exactly where the series passes through that constant (`polyline_filled_iff`). -/

namespace DTwin.Polyline

variable {K : Type*} [Field K]

/-- The line through two points. -/
def line (p q : K × K) (t : K) : K := p.2 + (q.2 - p.2) / (q.1 - p.1) * (t - p.1)

theorem line_left (p q : K × K) : line p q p.1 = p.2 := by
  unfold line
  rw [sub_self, mul_zero, add_zero]

theorem line_right {p q : K × K} (hne : q.1 ≠ p.1) : line p q q.1 = q.2 := by
  have hsub : q.1 - p.1 ≠ 0 := sub_ne_zero.mpr hne
  unfold line
  rw [div_mul_cancel₀ _ hsub]
  ring

/-- A line is the line through any two of its points. -/
theorem line_line (p q : K × K) {a b : K} (hne : b ≠ a) (t : K) :
    line (a, line p q a) (b, line p q b) t = line p q t := by
  have hsub : b - a ≠ 0 := sub_ne_zero.mpr hne
  unfold line
  field_simp
  ring

variable [LinearOrder K]

/-- The polyline; a single point is a constant. -/
def polyline : List (K × K) → K → K
  | [], _ => 0
  | [p], _ => p.2
  | p :: q :: l, t => if t ≤ p.1 then p.2 else if t ≤ q.1 then line p q t else polyline (q :: l) t

/-- Strictly increasing abscissae. -/
def Increasing (l : List (K × K)) : Prop := l.Pairwise fun p q => p.1 < q.1

variable {l : List (K × K)} {p q : K × K} {t : K}

theorem polyline_of_le (h : t ≤ p.1) : polyline (p :: l) t = p.2 := by
  cases l with
  | nil => rfl
  | cons q l => rw [polyline, if_pos h]

theorem polyline_between (hp : p.1 ≤ t) (hq : t ≤ q.1) : polyline (p :: q :: l) t = line p q t := by
  rw [polyline]
  by_cases hle : t ≤ p.1
  · obtain rfl : t = p.1 := le_antisymm hle hp
    rw [if_pos hle, line_left]
  · rw [if_neg hle, if_pos hq]

theorem polyline_tail (hpq : p.1 < q.1) (hq : q.1 ≤ t) : polyline (p :: q :: l) t = polyline (q :: l) t := by
  have hnot : ¬ t ≤ p.1 := not_le.mpr (hpq.trans_le hq)
  rw [polyline, if_neg hnot]
  by_cases hle : t ≤ q.1
  · obtain rfl : t = q.1 := le_antisymm hle hq
    rw [if_pos hle, line_right hpq.ne', polyline_of_le le_rfl]
  · rw [if_neg hle]

/-- The polyline passes through its points. -/
theorem polyline_knot : ∀ {l : List (K × K)}, Increasing l → ∀ p ∈ l, polyline l p.1 = p.2
  | [], _, p, hp => by simp at hp
  | [q], _, p, hp => by
    rw [List.mem_singleton] at hp
    rw [hp]
    rfl
  | q :: r :: l, hinc, p, hp => by
    have hqr : q.1 < r.1 := (List.pairwise_cons.mp hinc).1 r List.mem_cons_self
    rcases List.mem_cons.mp hp with rfl | hp
    · exact polyline_of_le le_rfl
    · have hrp : r.1 ≤ p.1 := by
        rcases List.mem_cons.mp hp with rfl | hp
        · exact le_rfl
        · exact ((List.pairwise_cons.mp (List.pairwise_cons.mp hinc).2).1 p hp).le
      rw [polyline_tail hqr hrp]
      exact polyline_knot (List.pairwise_cons.mp hinc).2 p hp

/-- Beyond its points it is constant. -/
theorem polyline_beyond : ∀ {l : List (K × K)}, Increasing l → ∀ {a t : K}, (∀ p ∈ l, p.1 ≤ a) → a ≤ t →
    polyline l t = polyline l a
  | [], _, _, _, _, _ => rfl
  | [p], _, _, _, _, _ => rfl
  | p :: q :: l, hinc, a, t, hbelow, hat => by
    have hpq : p.1 < q.1 := (List.pairwise_cons.mp hinc).1 q List.mem_cons_self
    have hq : q.1 ≤ a := hbelow q (List.mem_cons_of_mem p List.mem_cons_self)
    rw [polyline_tail hpq (hq.trans hat), polyline_tail hpq hq]
    exact polyline_beyond (List.pairwise_cons.mp hinc).2 (fun r hr => hbelow r (List.mem_cons_of_mem p hr)) hat

/-- **Between two abscissae without a point between them** the polyline is a line. -/
theorem polyline_gap {a b : K} (hab : a < b) : ∀ {l : List (K × K)}, Increasing l →
    (∀ p ∈ l, p.1 ≤ a ∨ b ≤ p.1) → ∀ {t : K}, a ≤ t → t ≤ b →
    polyline l t = line (a, polyline l a) (b, polyline l b) t
  | [], _, _, t, _, _ => by simp [polyline, line]
  | [p], _, _, t, _, _ => by simp [polyline, line]
  | p :: q :: l, hinc, hgap, t, hat, htb => by
    have hpq : p.1 < q.1 := (List.pairwise_cons.mp hinc).1 q List.mem_cons_self
    rcases hgap p List.mem_cons_self with hpa | hbp
    · rcases hgap q (List.mem_cons_of_mem p List.mem_cons_self) with hqa | hbq
      · -- both points lie before: the rest decides
        rw [polyline_tail hpq (hqa.trans hat), polyline_tail hpq hqa, polyline_tail hpq (hqa.trans hab.le)]
        exact polyline_gap hab (List.pairwise_cons.mp hinc).2 (fun r hr => hgap r (List.mem_cons_of_mem p hr)) hat htb
      · -- the gap is within the first segment
        rw [polyline_between (hpa.trans hat) (htb.trans hbq), polyline_between hpa (hab.le.trans hbq),
          polyline_between (hpa.trans hab.le) hbq, line_line p q hab.ne']
    · rw [polyline_of_le (htb.trans hbp), polyline_of_le (hab.le.trans hbp), polyline_of_le hbp]
      simp [line]

/-- A polyline through more points, from its first on: they lie on the other one, and no other point of that comes
later. -/
theorem polyline_eq_from (hl : Increasing l) : ∀ {s : List (K × K)} {p : K × K}, Increasing (p :: s) →
    (∀ r ∈ p :: s, polyline l r.1 = r.2) → (∀ r ∈ l, p.1 < r.1 → r ∈ s) → ∀ {t : K}, p.1 ≤ t →
    polyline (p :: s) t = polyline l t
  | [], p, _, hon, hlater, t, ht => by
    have hbefore : ∀ r ∈ l, r.1 ≤ p.1 := fun r hr => not_lt.mp fun hlt => by simpa using hlater r hr hlt
    rw [polyline_beyond hl hbefore ht, hon p List.mem_cons_self]
    rfl
  | q :: s, p, hinc, hon, hlater, t, ht => by
    obtain ⟨hfirst, hrest⟩ := List.pairwise_cons.mp hinc
    have hpq : p.1 < q.1 := hfirst q List.mem_cons_self
    have hqs : ∀ r ∈ q :: s, q.1 ≤ r.1 := by
      intro r hr
      rcases List.mem_cons.mp hr with rfl | hr
      · exact le_rfl
      · exact ((List.pairwise_cons.mp hrest).1 r hr).le
    rcases le_total t q.1 with htq | hqt
    · have hgap : ∀ r ∈ l, r.1 ≤ p.1 ∨ q.1 ≤ r.1 := by
        intro r hr
        rcases le_or_gt r.1 p.1 with hle | hlt
        · exact Or.inl hle
        · exact Or.inr (hqs r (hlater r hr hlt))
      have hp := hon p List.mem_cons_self
      have hq := hon q (List.mem_cons_of_mem p List.mem_cons_self)
      rw [polyline_between ht htq, polyline_gap hpq hl hgap ht htq, hp, hq]
    · rw [polyline_tail hpq hqt]
      refine polyline_eq_from hl hrest (fun r hr => hon r (List.mem_cons_of_mem p hr)) ?_ hqt
      intro r hr hlt
      have hmem := hlater r hr (hpq.trans hlt)
      rcases List.mem_cons.mp hmem with rfl | hmem
      · exact absurd hlt (lt_irrefl _)
      · exact hmem

/-- **Points on the polyline** can be added to it. -/
theorem polyline_eq_of_sublist {l' : List (K × K)} (hsub : l.Sublist l') (hne : l ≠ []) (hinc : Increasing l')
    (hon : ∀ p ∈ l', polyline l p.1 = p.2) (t : K) : polyline l' t = polyline l t := by
  have hl : Increasing l := hinc.sublist hsub
  obtain ⟨p, s, rfl⟩ : ∃ p s, l' = p :: s := by
    cases l' with
    | nil => exact absurd (List.sublist_nil.mp hsub) hne
    | cons p s => exact ⟨p, s, rfl⟩
  have hfirst : ∀ r ∈ l, p.1 ≤ r.1 := by
    intro r hr
    rcases List.mem_cons.mp (hsub.subset hr) with rfl | hr
    · exact le_rfl
    · exact ((List.pairwise_cons.mp hinc).1 r hr).le
  rcases le_total p.1 t with ht | ht
  · refine polyline_eq_from hl hinc hon ?_ ht
    intro r hr hlt
    rcases List.mem_cons.mp (hsub.subset hr) with rfl | hr
    · exact absurd hlt (lt_irrefl _)
    · exact hr
  · -- before the first point both are constant
    obtain ⟨q, r, rfl⟩ := List.exists_cons_of_ne_nil hne
    have hpq : p.1 ≤ q.1 := hfirst q List.mem_cons_self
    have hp := hon p List.mem_cons_self
    rw [polyline_of_le hpq] at hp
    rw [polyline_of_le ht, polyline_of_le (ht.trans hpq), hp]

/-! ## Samples that may be missing -/

section Samples

variable {samples : List (K × Option K)}

/-- The samples that are there. -/
def present (samples : List (K × Option K)) : List (K × K) := samples.filterMap fun s => s.2.map fun v => (s.1, v)

/-- All of them, with `d` where one is missing. -/
def filled (d : K) (samples : List (K × Option K)) : List (K × K) := samples.map fun s => (s.1, s.2.getD d)

omit [Field K] [LinearOrder K] in
theorem present_sublist (d : K) : ∀ samples : List (K × Option K), (present samples).Sublist (filled d samples)
  | [] => List.Sublist.slnil
  | (_, none) :: samples => (present_sublist d samples).cons _
  | (_, some _) :: samples => (present_sublist d samples).cons_cons _

omit [Field K] [LinearOrder K] in
theorem mem_present {x v : K} : (x, v) ∈ present samples ↔ (x, some v) ∈ samples := by
  unfold present
  simp only [List.mem_filterMap, Option.map_eq_some_iff, Prod.mk.injEq]
  constructor
  · rintro ⟨⟨y, o⟩, hm, w, ho, rfl, rfl⟩
    obtain rfl : o = some w := ho
    exact hm
  · intro hm
    exact ⟨(x, some v), hm, v, rfl, rfl, rfl⟩

omit [Field K] in
theorem filled_increasing (d : K) (hinc : samples.Pairwise fun s s' => s.1 < s'.1) : Increasing (filled d samples) :=
  List.pairwise_map.mpr hinc

theorem present_increasing (hinc : samples.Pairwise fun s s' => s.1 < s'.1) : Increasing (present samples) :=
  (filled_increasing 0 hinc).sublist (present_sublist 0 samples)

/-- **Filling the gaps** with `d` changes nothing at the stamps, the gaps among them, exactly if the polyline of what
is there passes through `d` at every gap. -/
theorem polyline_filled_iff (d : K) (hinc : samples.Pairwise fun s s' => s.1 < s'.1) (hsome : present samples ≠ [])
    (Stamp : K → Prop) (hat : ∀ s ∈ samples, Stamp s.1) :
    (∀ t, Stamp t → polyline (filled d samples) t = polyline (present samples) t) ↔
      ∀ s ∈ samples, s.2 = none → polyline (present samples) s.1 = d := by
  constructor
  · intro hall s hs hnone
    have hknot : (s.1, d) ∈ filled d samples := by
      refine List.mem_map.mpr ⟨s, hs, ?_⟩
      rw [hnone]
      rfl
    rw [← hall s.1 (hat s hs)]
    exact polyline_knot (filled_increasing d hinc) (s.1, d) hknot
  · intro hthrough t _
    refine polyline_eq_of_sublist (present_sublist d samples) hsome (filled_increasing d hinc) ?_ t
    intro p hp
    obtain ⟨⟨x, o⟩, hs, rfl⟩ := List.mem_map.mp hp
    cases o with
    | none => exact hthrough (x, none) hs rfl
    | some v => exact polyline_knot (present_increasing hinc) (x, v) (mem_present.mpr hs)

end Samples

end DTwin.Polyline
