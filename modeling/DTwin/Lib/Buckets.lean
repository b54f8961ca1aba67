import Mathlib.Data.Finset.Card
import Mathlib.Data.Int.CardIntervalMod
import Mathlib.Data.Int.ConditionallyCompleteOrder
import Mathlib.Data.List.Sort
import Mathlib.Tactic.Linarith
import Mathlib.Tactic.Ring

/-!
# DTwin.Lib.Buckets — instants in buckets of one width

* `bucketAt origin width t`: `time_bucket`, for an origin that begins a bucket counted from 0.
* `lagFrom none l`: each element with the one before it.  In an ordered list the ones before and behind a jump are those
  between which there is nothing (`mem_lagFrom_iff`).
* `IsRun w P a n`: the maximal runs of consecutive buckets of a kind.  Each bucket of the kind is in exactly one
  (`exists_run`, `IsRun.unique`), and the buckets less their ranks are the same within a run and in no other
  (`IsRun.island_iff`).
-/

namespace DTwin.Buckets

/-! ## Buckets -/

/-- The beginning of the bucket of an instant. -/
def bucketAt (origin width t : ℤ) : ℤ := origin + (t - origin) / width * width

section Bucket

variable {o w : ℤ} (hw : 0 < w) (ho : w ∣ o) (t : ℤ)
include hw ho

theorem bucketAt_eq : bucketAt o w t = t / w * w := by
  obtain ⟨k, rfl⟩ := ho
  have hdiv : (t - w * k) / w = t / w - k := by
    rw [show t - w * k = t + -k * w by ring, Int.add_mul_ediv_right _ _ hw.ne', sub_eq_add_neg]
  rw [bucketAt, hdiv]
  ring

theorem dvd_bucketAt : w ∣ bucketAt o w t := by
  rw [bucketAt_eq hw ho]
  exact Dvd.intro_left _ rfl

theorem bucketAt_le : bucketAt o w t ≤ t := by
  rw [bucketAt_eq hw ho]
  exact Int.ediv_mul_le t hw.ne'

variable {t}

/-- The bucket of an instant begins no earlier than another exactly if the instant does. -/
theorem le_bucketAt_iff {a : ℤ} (ha : w ∣ a) : a ≤ bucketAt o w t ↔ a ≤ t := by
  constructor
  · intro h
    exact h.trans (bucketAt_le hw ho t)
  · intro h
    obtain ⟨k, rfl⟩ := ha
    rw [bucketAt_eq hw ho, mul_comm w k]
    refine mul_le_mul_of_nonneg_right ?_ hw.le
    exact (Int.le_ediv_iff_mul_le hw).mpr (by rwa [mul_comm k w])

theorem bucketAt_lt_iff {a : ℤ} (ha : w ∣ a) : bucketAt o w t < a ↔ t < a := by
  rw [← not_le, ← not_le, le_bucketAt_iff hw ho ha]

theorem bucketAt_eq_self_iff : bucketAt o w t = t ↔ w ∣ t := by
  constructor
  · intro h
    exact h ▸ dvd_bucketAt hw ho t
  · intro h
    exact le_antisymm (bucketAt_le hw ho t) ((le_bucketAt_iff hw ho h).mpr le_rfl)

/-- The first bucket that does not begin before an instant. -/
theorem bucketAt_pred_add_le_iff {a : ℤ} (ha : w ∣ a) : bucketAt o w (t - 1) + w ≤ a ↔ t ≤ a := by
  have hlt := bucketAt_lt_iff (t := t - 1) hw ho ha
  obtain ⟨i, hi⟩ := dvd_bucketAt hw ho (t - 1)
  obtain ⟨k, rfl⟩ := ha
  rw [hi] at hlt ⊢
  constructor
  · intro h
    have hless : t - 1 < w * k := hlt.mp (by linarith)
    omega
  · intro h
    have hless : w * i < w * k := hlt.mpr (by omega)
    have hstep : i + 1 ≤ k := (mul_lt_mul_iff_of_pos_left hw).mp hless
    nlinarith

end Bucket

/-! ## Neighbours -/

section Lag

variable {α : Type*}

/-- `lag`, with what is before the first. -/
def lagFrom : Option α → List α → List (Option α × α)
  | _, [] => []
  | prev, x :: l => (prev, x) :: lagFrom (some x) l

variable [LinearOrder α] {a b : α}

/-- A jump: between the two there is nothing. -/
theorem mem_lagFrom_iff (hab : a < b) : ∀ (l : List α) (prev : Option α), l.Pairwise (· ≤ ·) →
    (∀ x ∈ prev, ∀ y ∈ l, x ≤ y) →
      ((some a, b) ∈ lagFrom prev l ↔ (prev = some a ∨ a ∈ l) ∧ b ∈ l ∧ ∀ x ∈ l, x ≤ a ∨ b ≤ x)
  | [], prev, _, _ => by simp [lagFrom]
  | y :: l, prev, hl, hprev => by
    obtain ⟨hfirst, hrest⟩ := List.pairwise_cons.mp hl
    have hih := mem_lagFrom_iff hab l (some y) hrest fun x hx => by
      rw [Option.mem_def, Option.some.injEq] at hx
      exact hx ▸ hfirst
    rw [lagFrom, List.mem_cons, hih, Prod.mk.injEq, Option.some.injEq]
    constructor
    · rintro (⟨rfl, rfl⟩ | ⟨ha, hb, hnone⟩)
      · refine ⟨Or.inl rfl, List.mem_cons_self, fun x hx => Or.inr ?_⟩
        rcases List.mem_cons.mp hx with rfl | hx
        · exact le_rfl
        · exact hfirst x hx
      · refine ⟨Or.inr ?_, List.mem_cons_of_mem y hb, fun x hx => ?_⟩
        · rcases ha with rfl | ha
          · exact List.mem_cons_self
          · exact List.mem_cons_of_mem y ha
        · rcases List.mem_cons.mp hx with rfl | hx
          · rcases ha with rfl | ha
            · exact Or.inl le_rfl
            · exact Or.inl (hfirst a ha)
          · exact hnone x hx
    · rintro ⟨ha, hb, hnone⟩
      by_cases hyb : b ≤ y
      · -- Nothing of the list is before `b`, so `a` is what is before the list.
        have hya : prev = some a := by
          rcases ha with ha | ha
          · exact ha
          · rcases List.mem_cons.mp ha with rfl | ha
            · exact absurd hyb (not_le.mpr hab)
            · exact absurd (hyb.trans (hfirst a ha)) (not_le.mpr hab)
        refine Or.inl ⟨hya.symm, ?_⟩
        rcases List.mem_cons.mp hb with rfl | hb
        · rfl
        · exact le_antisymm hyb (hfirst b hb)
      · have hya : y ≤ a := (hnone y List.mem_cons_self).resolve_right hyb
        refine Or.inr ⟨?_, ?_, fun x hx => hnone x (List.mem_cons_of_mem y hx)⟩
        · rcases ha with ha | ha
          · exact Or.inl (le_antisymm hya (hprev a ha y List.mem_cons_self))
          · rcases List.mem_cons.mp ha with rfl | ha
            · exact Or.inl rfl
            · exact Or.inr ha
        · rcases List.mem_cons.mp hb with rfl | hb
          · exact absurd le_rfl hyb
          · exact hb

omit [LinearOrder α] in
theorem fst_of_mem_lagFrom : ∀ {l : List α} {prev : Option α}, (some a, b) ∈ lagFrom prev l → prev = some a ∨ a ∈ l
  | y :: l, prev, hp => by
    rcases List.mem_cons.mp hp with heq | hp
    · exact Or.inl (congrArg Prod.fst heq).symm
    · rcases fst_of_mem_lagFrom hp with heq | ha
      · exact Or.inr (List.mem_cons.mpr (Or.inl (Option.some.inj heq).symm))
      · exact Or.inr (List.mem_cons_of_mem y ha)

omit [LinearOrder α] in
theorem snd_of_mem_lagFrom : ∀ {l : List α} {prev : Option α} {e : Option α × α}, e ∈ lagFrom prev l → e.2 ∈ l
  | y :: l, prev, e, he => by
    rcases List.mem_cons.mp he with rfl | he
    · exact List.mem_cons_self
    · exact List.mem_cons_of_mem y (snd_of_mem_lagFrom he)

omit [LinearOrder α] in
/-- The neighbours of a kind. -/
def jumps (p : α → α → Bool) (prev : Option α) (l : List α) : List (α × α) :=
  (lagFrom prev l).filterMap fun e => (e.1.filter fun a => p a e.2).map fun a => (a, e.2)

omit [LinearOrder α] in
theorem mem_jumps {p : α → α → Bool} {prev : Option α} {l : List α} :
    (a, b) ∈ jumps p prev l ↔ (some a, b) ∈ lagFrom prev l ∧ p a b = true := by
  unfold jumps
  rw [List.mem_filterMap]
  constructor
  · rintro ⟨⟨c, d⟩, hmem, heq⟩
    obtain ⟨x, hx, hpair⟩ := Option.map_eq_some_iff.mp heq
    obtain ⟨rfl, rfl⟩ := Prod.mk.inj hpair
    obtain ⟨hc, hp⟩ := Option.filter_eq_some_iff.mp hx
    exact ⟨hc ▸ hmem, hp⟩
  · rintro ⟨hmem, hp⟩
    exact ⟨(some a, b), hmem, Option.map_eq_some_iff.mpr ⟨a, Option.filter_eq_some_iff.mpr ⟨rfl, hp⟩, rfl⟩⟩

/-- No jump is listed twice. -/
theorem nodup_jumps {p : α → α → Bool} (hp : ∀ x y, p x y = true → x < y) : ∀ (l : List α) (prev : Option α),
    l.Pairwise (· ≤ ·) → (jumps p prev l).Nodup
  | [], _, _ => List.nodup_nil
  | y :: l, prev, hl => by
    obtain ⟨hfirst, hrest⟩ := List.pairwise_cons.mp hl
    have hih := nodup_jumps hp l (some y) hrest
    have hcons : jumps p prev (y :: l) = ((prev.filter fun a => p a y).map fun a => (a, y)).toList ++
      jumps p (some y) l := by
      unfold jumps
      rw [lagFrom, List.filterMap_cons]
      rcases (prev.filter fun a => p a y).map fun a => (a, y) with - | x
      · rfl
      · rfl
    rw [hcons]
    rcases hjump : (prev.filter fun a => p a y).map fun a => (a, y) with - | ⟨x, z⟩
    · exact hih
    · refine List.nodup_cons.mpr ⟨fun hmem => ?_, hih⟩
      -- Behind `y` a jump to `y` would have to come from before it.
      obtain ⟨x', hx', hpair⟩ := Option.map_eq_some_iff.mp hjump
      obtain ⟨rfl, rfl⟩ := Prod.mk.inj hpair
      obtain ⟨hmem, hpx⟩ := mem_jumps.mp hmem
      have hle : y ≤ x' := by
        rcases fst_of_mem_lagFrom hmem with heq | hx
        · exact (Option.some.inj heq).le
        · exact hfirst x' hx
      exact absurd (hp _ _ hpx) (not_lt.mpr hle)

end Lag

/-! ## Runs -/

/-- `n` consecutive buckets of a kind from `a` on, with none of the kind next to them. -/
structure IsRun (w : ℤ) (P : ℤ → Prop) (a : ℤ) (n : ℕ) : Prop where
  pos : 0 < n
  mem : ∀ i < n, P (a + i * w)
  before : ¬ P (a - w)
  after : ¬ P (a + n * w)

/-- Is a bucket one of the `n` from `a` on? -/
def InRun (w a : ℤ) (n : ℕ) (x : ℤ) : Prop := ∃ i < n, x = a + (i : ℤ) * w

section Run

variable {w : ℤ} {P : ℤ → Prop} {a b x : ℤ} {n m : ℕ}

theorem IsRun.first (h : IsRun w P a n) : P a := by
  have hfirst := h.mem 0 h.pos
  rwa [Nat.cast_zero, zero_mul, add_zero] at hfirst

theorem IsRun.of_inRun (h : IsRun w P a n) (hx : InRun w a n x) : P x := by
  obtain ⟨i, hi, rfl⟩ := hx
  exact h.mem i hi

/-- A run begins where another does that has a bucket in common with it. -/
theorem IsRun.le_of_inRun (h : IsRun w P a n) (h' : IsRun w P b m) {i j : ℕ} (hj : j < m)
    (heq : a + (i : ℤ) * w = b + (j : ℤ) * w) : j ≤ i := by
  by_contra hlt
  rw [not_le] at hlt
  refine h.before ?_
  have hmem := h'.mem (j - i - 1) (by omega)
  have hcast : ((j - i - 1 : ℕ) : ℤ) = j - i - 1 := by omega
  rw [hcast] at hmem
  have hshift : b + ((j : ℤ) - i - 1) * w = a - w := by linarith
  rwa [hshift] at hmem

/-- **A bucket is in one run at most.** -/
theorem IsRun.unique (h : IsRun w P a n) (h' : IsRun w P b m) (hx : InRun w a n x) (hx' : InRun w b m x) :
    a = b ∧ n = m := by
  obtain ⟨i, hi, rfl⟩ := hx
  obtain ⟨j, hj, heq⟩ := hx'
  have hij : i = j := le_antisymm (h'.le_of_inRun h hi heq.symm) (h.le_of_inRun h' hj heq)
  subst hij
  obtain rfl : a = b := by linarith
  refine ⟨rfl, ?_⟩
  rcases lt_trichotomy n m with hlt | rfl | hlt
  · exact absurd (h'.mem n hlt) h.after
  · rfl
  · exact absurd (h.mem m hlt) h'.after

/-- **A bucket of a kind is in a run**, if the kind is bounded. -/
theorem exists_run (hw : 0 < w) {lo hi : ℤ} (hP : ∀ x, P x → lo ≤ x ∧ x < hi) (hx : P x) :
    ∃ a n, IsRun w P a n ∧ InRun w a n x := by
  classical
  have hback : ∃ i : ℕ, ¬ P (x - (i + 1 : ℕ) * w) := by
    refine ⟨(x - lo).toNat, fun h => ?_⟩
    have hlo := (hP _ h).1
    have hle : x - lo ≤ ((x - lo).toNat : ℤ) := Int.self_le_toNat _
    push_cast at hlo
    nlinarith
  have hahead : ∃ i : ℕ, ¬ P (x + (i + 1 : ℕ) * w) := by
    refine ⟨(hi - x).toNat, fun h => ?_⟩
    have hhi := (hP _ h).2
    have hle : hi - x ≤ ((hi - x).toNat : ℤ) := Int.self_le_toNat _
    push_cast at hhi
    nlinarith
  obtain ⟨i, hi₁, hi₂⟩ : ∃ i : ℕ, ¬ P (x - (i + 1 : ℕ) * w) ∧ ∀ k ≤ i, P (x - (k : ℕ) * w) := by
    refine ⟨Nat.find hback, Nat.find_spec hback, fun k hk => ?_⟩
    rcases k with - | k
    · rwa [Nat.cast_zero, zero_mul, sub_zero]
    · exact not_not.mp (Nat.find_min hback hk)
  obtain ⟨j, hj₁, hj₂⟩ : ∃ j : ℕ, ¬ P (x + (j + 1 : ℕ) * w) ∧ ∀ k ≤ j, P (x + (k : ℕ) * w) := by
    refine ⟨Nat.find hahead, Nat.find_spec hahead, fun k hk => ?_⟩
    rcases k with - | k
    · rwa [Nat.cast_zero, zero_mul, add_zero]
    · exact not_not.mp (Nat.find_min hahead hk)
  refine ⟨x - i * w, i + j + 1, ⟨Nat.succ_pos _, fun k hk => ?_, fun h => hi₁ ?_, fun h => hj₁ ?_⟩,
    i, by omega, by ring⟩
  · rcases Nat.le_total k i with hki | hik
    · have hmem := hi₂ (i - k) (Nat.sub_le i k)
      rw [Nat.cast_sub hki] at hmem
      have hshift : x - ((i : ℤ) - k) * w = x - i * w + k * w := by ring
      rwa [hshift] at hmem
    · have hmem := hj₂ (k - i) (by omega)
      rw [Nat.cast_sub hik] at hmem
      have hshift : x + ((k : ℤ) - i) * w = x - i * w + k * w := by ring
      rwa [hshift] at hmem
  · have hshift : x - ((i + 1 : ℕ) : ℤ) * w = x - i * w - w := by
      push_cast
      ring
    rwa [hshift]
  · have hshift : x + ((j + 1 : ℕ) : ℤ) * w = x - i * w + ((i + j + 1 : ℕ) : ℤ) * w := by
      push_cast
      ring
    rwa [hshift]

end Run

/-! ## Gaps -/

/-- Of the buckets between two of a list, those that are not in it. -/
def Between (w lo hi : ℤ) (l : List ℤ) (x : ℤ) : Prop := w ∣ x ∧ (lo < x ∧ x < hi) ∧ x ∉ l

/-- **A run of missing buckets** lies between two that are there, and none is between them. -/
theorem isRun_between_iff {w lo hi a : ℤ} {n : ℕ} {l : List ℤ} (hw : 0 < w) (hdvd : ∀ x ∈ l, w ∣ x) (hlo : lo ∈ l)
    (hhi : hi ∈ l) (hl : ∀ x ∈ l, lo ≤ x ∧ x ≤ hi) (hn : 0 < n) : IsRun w (Between w lo hi l) a n ↔
      a - w ∈ l ∧ a + n * w ∈ l ∧ ∀ x ∈ l, x ≤ a - w ∨ a + n * w ≤ x := by
  constructor
  · intro h
    obtain ⟨⟨k, rfl⟩, ⟨hfirst, -⟩, -⟩ := h.first
    obtain ⟨c, rfl⟩ := hdvd lo hlo
    obtain ⟨d, rfl⟩ := hdvd hi hhi
    have hck : c < k := lt_of_mul_lt_mul_left hfirst hw.le
    have hlast := (h.mem (n - 1) (by omega)).2.1.2
    have hcast : ((n - 1 : ℕ) : ℤ) = n - 1 := by omega
    rw [hcast, show w * k + ((n : ℤ) - 1) * w = w * (k + n - 1) by ring] at hlast
    have hkd : k + n - 1 < d := lt_of_mul_lt_mul_left hlast hw.le
    have hn' : (0 : ℤ) < n := by exact_mod_cast hn
    have hprev : w * k - w = w * (k - 1) := by ring
    have hnext : w * k + n * w = w * (k + n) := by ring
    refine ⟨?_, ?_, fun x hx => ?_⟩
    · by_contra hnot
      rcases (show c ≤ k - 1 by omega).eq_or_lt with heq | hlt
      · exact hnot (by rw [hprev, ← heq]; exact hlo)
      · refine h.before ⟨⟨k - 1, hprev⟩, ⟨?_, ?_⟩, hnot⟩
        · rw [hprev]
          exact mul_lt_mul_of_pos_left hlt hw
        · rw [hprev]
          exact mul_lt_mul_of_pos_left (by omega) hw
    · by_contra hnot
      rcases (show k + n ≤ d by omega).eq_or_lt with heq | hlt
      · exact hnot (by rw [hnext, heq]; exact hhi)
      · refine h.after ⟨⟨k + n, hnext⟩, ⟨?_, ?_⟩, hnot⟩
        · rw [hnext]
          exact mul_lt_mul_of_pos_left (by omega) hw
        · rw [hnext]
          exact mul_lt_mul_of_pos_left hlt hw
    · by_contra hnot
      rw [not_or, not_le, not_le, hprev, hnext] at hnot
      obtain ⟨j, rfl⟩ := hdvd x hx
      have hkj : k - 1 < j := lt_of_mul_lt_mul_left hnot.1 hw.le
      have hjn : j < k + n := lt_of_mul_lt_mul_left hnot.2 hw.le
      have hmem := h.mem (j - k).toNat (by omega)
      rw [Int.toNat_of_nonneg (by omega), show w * k + (j - k) * w = w * j by ring] at hmem
      exact hmem.2.2 hx
  · rintro ⟨hprev, hnext, hnone⟩
    have hdvda : w ∣ a := by
      have hself := hdvd _ hprev
      rwa [dvd_sub_self_right] at hself
    refine ⟨hn, fun i hi' => ⟨?_, ⟨?_, ?_⟩, fun hmem => ?_⟩, fun h => h.2.2 hprev, fun h => h.2.2 hnext⟩
    · exact dvd_add hdvda (Dvd.intro_left _ rfl)
    · have hpos : (0 : ℤ) ≤ i * w := mul_nonneg (Nat.cast_nonneg i) hw.le
      have hle := (hl _ hprev).1
      linarith
    · have hless : (i : ℤ) * w < n * w := mul_lt_mul_of_pos_right (by exact_mod_cast hi') hw
      have hle := (hl _ hnext).2
      linarith
    · have hpos : (0 : ℤ) ≤ i * w := mul_nonneg (Nat.cast_nonneg i) hw.le
      have hless : (i : ℤ) * w < n * w := mul_lt_mul_of_pos_right (by exact_mod_cast hi') hw
      rcases hnone _ hmem with h | h
      · linarith
      · linarith

/-! ## Islands -/

/-- `row_number`: how many buckets there are up to one. -/
def rank (K : Finset ℤ) (x : ℤ) : ℕ := (K.filter (· ≤ x)).card

section Island

/-- The ranks of elements in order. -/
theorem zipIdx_eq_rank {α : Type*} {key : α → ℤ} : ∀ {l : List α} (k : ℕ), (l.Pairwise fun a b => key a < key b) →
    l.zipIdx (k + 1) = l.map fun a => (a, k + rank (l.map key).toFinset (key a))
  | [], _, _ => rfl
  | x :: l, k, hl => by
    obtain ⟨hfirst, hrest⟩ := List.pairwise_cons.mp hl
    have hone : rank ((x :: l).map key).toFinset (key x) = 1 := by
      have hsingle : ((x :: l).map key).toFinset.filter (· ≤ key x) = {key x} := by
        ext z
        simp only [Finset.mem_filter, List.mem_toFinset, List.map_cons, List.mem_cons, List.mem_map,
          Finset.mem_singleton]
        constructor
        · rintro ⟨rfl | ⟨a, ha, rfl⟩, hle⟩
          · rfl
          · exact absurd (hfirst a ha) (not_lt.mpr hle)
        · rintro rfl
          exact ⟨Or.inl rfl, le_rfl⟩
      rw [rank, hsingle, Finset.card_singleton]
    have hmore : ∀ a ∈ l, rank ((x :: l).map key).toFinset (key a) = rank (l.map key).toFinset (key a) + 1 := by
      intro a ha
      have hnew : key x ∉ (l.map key).toFinset.filter (· ≤ key a) := by
        intro hmem
        obtain ⟨b, hb, heq⟩ := List.mem_map.mp (List.mem_toFinset.mp (Finset.mem_filter.mp hmem).1)
        exact absurd heq (hfirst b hb).ne'
      rw [rank, List.map_cons, List.toFinset_cons, Finset.filter_insert, if_pos (hfirst a ha).le,
        Finset.card_insert_of_notMem hnew]
      rfl
    rw [List.zipIdx_cons, zipIdx_eq_rank (k + 1) hrest, List.map_cons, hone]
    refine congrArg _ (List.map_congr_left fun a ha => ?_)
    rw [hmore a ha, add_right_comm, add_assoc]

variable {w : ℤ} {K : Finset ℤ} {x y : ℤ}

theorem rank_add (hxy : x ≤ y) : rank K y = rank K x + (K.filter fun z => x < z ∧ z ≤ y).card := by
  have hsplit : K.filter (· ≤ y) = K.filter (· ≤ x) ∪ K.filter fun z => x < z ∧ z ≤ y := by
    ext z
    simp only [Finset.mem_union, Finset.mem_filter]
    constructor
    · rintro ⟨hz, hzy⟩
      rcases le_or_gt z x with hzx | hxz
      · exact Or.inl ⟨hz, hzx⟩
      · exact Or.inr ⟨hz, hxz, hzy⟩
    · rintro (⟨hz, hzx⟩ | ⟨hz, -, hzy⟩)
      · exact ⟨hz, hzx.trans hxy⟩
      · exact ⟨hz, hzy⟩
  have hdisjoint : Disjoint (K.filter (· ≤ x)) (K.filter fun z => x < z ∧ z ≤ y) := by
    refine Finset.disjoint_left.mpr fun z hz hz' => ?_
    exact absurd (Finset.mem_filter.mp hz).2 (not_le.mpr (Finset.mem_filter.mp hz').2.1)
  rw [rank, hsplit, Finset.card_union_of_disjoint hdisjoint]
  rfl

/-- How many buckets begin behind one, up to another. -/
theorem card_between (hw : 0 < w) (hx : w ∣ x) (hy : w ∣ y) (hxy : x ≤ y) :
    (((Finset.Ioc x y).filter (w ∣ ·)).card : ℤ) * w = y - x := by
  obtain ⟨i, rfl⟩ := hx
  obtain ⟨j, rfl⟩ := hy
  have hij : i ≤ j := le_of_mul_le_mul_left hxy hw
  have himage : (Finset.Ioc (w * i) (w * j)).filter (w ∣ ·) =
      (Finset.Ioc i j).map ⟨(w * ·), mul_right_injective₀ hw.ne'⟩ := by
    ext z
    simp only [Finset.mem_filter, Finset.mem_Ioc, Finset.mem_map, Function.Embedding.coeFn_mk]
    constructor
    · rintro ⟨⟨hlo, hhi⟩, k, rfl⟩
      exact ⟨k, ⟨lt_of_mul_lt_mul_left hlo hw.le, le_of_mul_le_mul_left hhi hw⟩, rfl⟩
    · rintro ⟨k, ⟨hlo, hhi⟩, rfl⟩
      exact ⟨⟨mul_lt_mul_of_pos_left hlo hw, mul_le_mul_of_nonneg_left hhi hw.le⟩, Dvd.intro k rfl⟩
  rw [himage, Finset.card_map, Int.card_Ioc, Int.toNat_of_nonneg (by linarith)]
  ring

/-- **Gaps and islands.**  Two buckets less their ranks are the same exactly if all between them are there. -/
theorem island_iff (hw : 0 < w) (hK : ∀ z ∈ K, w ∣ z) (hx : x ∈ K) (hy : y ∈ K) (hxy : x ≤ y) :
    x - rank K x * w = y - rank K y * w ↔ ∀ z, w ∣ z → x < z → z ≤ y → z ∈ K := by
  have hcard := card_between hw (hK x hx) (hK y hy) hxy
  have hsub : (K.filter fun z => x < z ∧ z ≤ y) ⊆ (Finset.Ioc x y).filter (w ∣ ·) := by
    intro z hz
    obtain ⟨hz, hbetween⟩ := Finset.mem_filter.mp hz
    exact Finset.mem_filter.mpr ⟨Finset.mem_Ioc.mpr hbetween, hK z hz⟩
  have hsame : x - rank K x * w = y - rank K y * w ↔
      (K.filter fun z => x < z ∧ z ≤ y).card = ((Finset.Ioc x y).filter (w ∣ ·)).card := by
    rw [rank_add hxy]
    push_cast
    constructor
    · intro h
      have hmul : ((K.filter fun z => x < z ∧ z ≤ y).card : ℤ) * w = ((Finset.Ioc x y).filter (w ∣ ·)).card * w := by
        linarith
      exact_mod_cast mul_right_cancel₀ hw.ne' hmul
    · intro h
      rw [h]
      linarith
  rw [hsame]
  constructor
  · intro h z hz hxz hzy
    have hset := Finset.eq_of_subset_of_card_le hsub h.ge
    have hmem : z ∈ (Finset.Ioc x y).filter (w ∣ ·) := Finset.mem_filter.mpr ⟨Finset.mem_Ioc.mpr ⟨hxz, hzy⟩, hz⟩
    rw [← hset] at hmem
    exact (Finset.mem_filter.mp hmem).1
  · intro h
    refine congrArg Finset.card (Finset.Subset.antisymm hsub fun z hz => ?_)
    obtain ⟨hbetween, hz⟩ := Finset.mem_filter.mp hz
    obtain ⟨hxz, hzy⟩ := Finset.mem_Ioc.mp hbetween
    exact Finset.mem_filter.mpr ⟨h z hz hxz hzy, hxz, hzy⟩

/-- **The island of a run** is the run. -/
theorem IsRun.island_iff {a : ℤ} {n : ℕ} (h : IsRun w (· ∈ K) a n) (hw : 0 < w) (hK : ∀ z ∈ K, w ∣ z) (hy : y ∈ K) :
    a - rank K a * w = y - rank K y * w ↔ InRun w a n y := by
  obtain ⟨k, hk⟩ := hK a h.first
  obtain ⟨j, hj⟩ := hK y hy
  rcases le_total a y with hay | hya
  · rw [Buckets.island_iff hw hK h.first hy hay]
    constructor
    · intro hall
      have hkj : k ≤ j := by
        rw [hk, hj] at hay
        exact le_of_mul_le_mul_left hay hw
      refine ⟨(j - k).toNat, ?_, ?_⟩
      · by_contra hlong
        refine h.after (hall _ ⟨k + n, by rw [hk]; ring⟩ ?_ ?_)
        · have hpos : (0 : ℤ) < n * w := mul_pos (by exact_mod_cast h.pos) hw
          linarith
        · have hle : k + n ≤ j := by omega
          rw [hk, hj]
          nlinarith
      · rw [Int.toNat_of_nonneg (by linarith), hk, hj]
        ring
    · rintro ⟨i, hi, rfl⟩ z ⟨l, rfl⟩ haz hzy
      have hkl : k < l := by
        rw [hk] at haz
        exact lt_of_mul_lt_mul_left haz hw.le
      have hli : l ≤ k + i := by
        rw [hk] at hzy
        refine le_of_mul_le_mul_left (hzy.trans_eq ?_) hw
        ring
      have hmem := h.mem (l - k).toNat (by omega)
      rw [Int.toNat_of_nonneg (by linarith), hk] at hmem
      have hshift : w * k + (l - k) * w = w * l := by ring
      rwa [hshift] at hmem
  · rw [eq_comm, Buckets.island_iff hw hK hy h.first hya]
    constructor
    · intro hall
      rcases hya.eq_or_lt with rfl | hlt
      · exact ⟨0, h.pos, by simp⟩
      · have hjk : j < k := by
          rw [hk, hj] at hlt
          exact lt_of_mul_lt_mul_left hlt hw.le
        -- The bucket before the run would be there.
        refine absurd ?_ h.before
        rcases (Int.add_one_le_iff.mpr hjk).eq_or_lt with heq | hless
        · have hprev : a - w = y := by
            rw [hk, hj, ← heq]
            ring
          exact hprev ▸ hy
        · refine hall _ ⟨k - 1, by rw [hk]; ring⟩ ?_ (by linarith)
          rw [hk, hj]
          nlinarith
    · rintro ⟨i, hi, rfl⟩ z - haz hzy
      have hpos : (0 : ℤ) ≤ i * w := mul_nonneg (Nat.cast_nonneg i) hw.le
      linarith

end Island

end DTwin.Buckets
