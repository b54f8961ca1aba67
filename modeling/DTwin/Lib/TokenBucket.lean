import Mathlib.Algebra.Order.Field.Basic
import Mathlib.Algebra.Order.BigOperators.Group.List
import Mathlib.Data.List.Induction
import Mathlib.Tactic.Linarith
import Mathlib.Tactic.Ring

/-!
# DTwin.Lib.TokenBucket — token buckets and the bound they give

A `Bucket` holds tokens, refills at a rate up to its burst and is spent from.  A charge is a time and a cost.

* `credit l`: what a bucket charged with `l` holds at each time, as a function of time; `level` is the same for
  a bucket at hand, and `credit_snoc`, `level_spend` say that both are charged alike (`charge_mono`);
* `credit_flow`: between charges both refill;
* `bounded_snoc`: if every charge is within the credit at its time, the charges of every interval are within the
  burst plus the rate times its length.

Nothing here knows who is charged.
-/

namespace DTwin.TokenBucket

structure Bucket (K : Type*) where
  tokens : K
  updatedAt : K

variable {K : Type*} [Field K] [LinearOrder K]

/-- The tokens of a bucket at a time. -/
def level (burst rate : K) (b : Bucket K) (τ : K) : K :=
  min burst (b.tokens + max 0 (τ - b.updatedAt) * rate)

def refill (burst rate now : K) (b : Bucket K) : Bucket K := ⟨level burst rate b now, now⟩

def spend (cost : K) (b : Bucket K) : Bucket K := { b with tokens := b.tokens - cost }

/-- The tokens after a charge: a time and a cost. -/
def charge (burst rate : K) (e : K × K) (v : K → K) (τ : K) : K := min burst (v e.1 - e.2 + rate * (τ - e.1))

/-- The tokens of a bucket that was full at first. -/
def credit (burst rate : K) (l : List (K × K)) : K → K :=
  l.foldl (fun v e => charge burst rate e v) fun _ => burst

/-- The charges of an interval. -/
def spent (s t : K) (l : List (K × K)) : K :=
  ((l.filter fun e => s ≤ e.1 ∧ e.1 ≤ t).map Prod.snd).sum

/-- The charges of every interval are bounded. -/
def Bounded (burst rate : K) (l : List (K × K)) : Prop :=
  ∀ s t, s ≤ t → spent s t l ≤ burst + rate * (t - s)

/-- No charge is later. -/
def Until (τ : K) (l : List (K × K)) : Prop := ∀ e ∈ l, e.1 ≤ τ

variable {burst rate : K} {l : List (K × K)}

@[simp] theorem credit_nil (τ : K) : credit burst rate [] τ = burst := rfl

theorem credit_snoc (l : List (K × K)) (e : K × K) :
    credit burst rate (l ++ [e]) = charge burst rate e (credit burst rate l) := by
  simp [credit]

theorem charge_le (e : K × K) (v : K → K) (τ : K) : charge burst rate e v τ ≤ burst := min_le_left _ _

theorem credit_le (burst rate : K) (l : List (K × K)) (τ : K) : credit burst rate l τ ≤ burst := by
  induction l using List.reverseRecOn with
  | nil => exact le_rfl
  | append_singleton l e ih =>
    rw [credit_snoc]
    exact charge_le e _ τ

theorem level_le (b : Bucket K) (τ : K) : level burst rate b τ ≤ burst := min_le_left _ _

@[simp] theorem spent_nil (s t : K) : spent s t [] = 0 := rfl

theorem spent_snoc (s t : K) (l : List (K × K)) (e : K × K) :
    spent s t (l ++ [e]) = spent s t l + if s ≤ e.1 ∧ e.1 ≤ t then e.2 else 0 := by
  unfold spent
  by_cases he : s ≤ e.1 ∧ e.1 ≤ t <;> simp [List.filter_append, he]

/-- After the last charge the end of the interval does not matter. -/
theorem spent_until {τ : K} (hl : Until τ l) (s : K) {t : K} (ht : τ ≤ t) : spent s t l = spent s τ l := by
  unfold spent
  congr 2
  refine List.filter_congr fun e he => ?_
  have hτ := hl e he
  simp [hτ, hτ.trans ht]

variable [IsStrictOrderedRing K]

theorem charge_mono {v w : K → K} {e : K × K} (h : v e.1 ≤ w e.1) (τ : K) :
    charge burst rate e v τ ≤ charge burst rate e w τ := by
  refine min_le_min_left burst ?_
  linarith

/-- A refill in two parts. -/
theorem min_refill {x σ τ u : K} (hrate : 0 ≤ rate) (hτ : σ ≤ τ) :
    min burst (x + rate * (τ - u)) = min burst (min burst (x + rate * (σ - u)) + rate * (τ - σ)) := by
  have hpos : 0 ≤ rate * (τ - σ) := mul_nonneg hrate (sub_nonneg.mpr hτ)
  have hsum : x + rate * (σ - u) + rate * (τ - σ) = x + rate * (τ - u) := by ring
  rw [min_add_add_right .. |>.symm, hsum, ← min_assoc, min_eq_left (by linarith : burst ≤ burst + rate * (τ - σ))]

/-- Between charges a credit refills. -/
theorem credit_flow {σ τ : K} (hrate : 0 ≤ rate) (hl : Until σ l) (hτ : σ ≤ τ) :
    credit burst rate l τ = min burst (credit burst rate l σ + rate * (τ - σ)) := by
  have hpos : 0 ≤ rate * (τ - σ) := mul_nonneg hrate (sub_nonneg.mpr hτ)
  induction l using List.reverseRecOn with
  | nil => exact (min_eq_left (by simpa using hpos)).symm
  | append_singleton l e _ =>
    rw [credit_snoc]
    exact min_refill hrate hτ

theorem level_flow {b : Bucket K} {σ τ : K} (hrate : 0 ≤ rate) (hb : b.updatedAt ≤ σ) (hτ : σ ≤ τ) :
    level burst rate b τ = min burst (level burst rate b σ + rate * (τ - σ)) := by
  have hσ : max 0 (σ - b.updatedAt) = σ - b.updatedAt := max_eq_right (sub_nonneg.mpr hb)
  have hτ' : max 0 (τ - b.updatedAt) = τ - b.updatedAt := max_eq_right (sub_nonneg.mpr (hb.trans hτ))
  rw [level, level, hσ, hτ', mul_comm, mul_comm (σ - b.updatedAt)]
  exact min_refill hrate hτ

theorem level_refill {b : Bucket K} {σ τ : K} (hrate : 0 ≤ rate) (hb : b.updatedAt ≤ σ) (hτ : σ ≤ τ) :
    level burst rate (refill burst rate σ b) τ = level burst rate b τ := by
  have hσ : max 0 (τ - σ) = τ - σ := max_eq_right (sub_nonneg.mpr hτ)
  rw [level_flow hrate hb hτ, level, refill, hσ, mul_comm]

/-- A bucket that is refilled and spent from is charged. -/
theorem level_spend (b : Bucket K) (c : K) {σ τ : K} (hτ : σ ≤ τ) :
    level burst rate (spend c (refill burst rate σ b)) τ =
      charge burst rate (σ, c) (level burst rate b) τ := by
  have hσ : max 0 (τ - σ) = τ - σ := max_eq_right (sub_nonneg.mpr hτ)
  simp only [level, spend, refill, charge, hσ, mul_comm]

/-- A charge within the credit leaves some. -/
theorem credit_snoc_nonneg {e : K × K} {τ : K} (hburst : 0 ≤ burst) (hrate : 0 ≤ rate)
    (he : e.2 ≤ credit burst rate l e.1) (hτ : e.1 ≤ τ) : 0 ≤ credit burst rate (l ++ [e]) τ := by
  have hpos : 0 ≤ rate * (τ - e.1) := mul_nonneg hrate (sub_nonneg.mpr hτ)
  rw [credit_snoc]
  refine le_min hburst ?_
  linarith

/-- What has been spent since `s` and what is left are within the bound. -/
theorem spent_add_credit (burst : K) (hrate : 0 ≤ rate) (hsorted : l.Pairwise fun a b => a.1 ≤ b.1) {s τ : K}
    (hl : Until τ l) (hs : s ≤ τ) : spent s τ l + credit burst rate l τ ≤ burst + rate * (τ - s) := by
  induction l using List.reverseRecOn generalizing τ with
  | nil =>
    have hpos : 0 ≤ rate * (τ - s) := mul_nonneg hrate (sub_nonneg.mpr hs)
    simpa using hpos
  | append_singleton l e ih =>
    obtain ⟨hsorted, -, hlast⟩ := List.pairwise_append.mp hsorted
    have he : e.1 ≤ τ := hl e (by simp)
    have hprev : Until e.1 l := fun a ha => hlast a ha e (by simp)
    rw [spent_snoc, spent_until hprev s he]
    by_cases hse : s ≤ e.1
    · have hbound := ih hsorted hprev hse
      have hcredit : credit burst rate (l ++ [e]) τ ≤
          credit burst rate l e.1 - e.2 + rate * (τ - e.1) := by
        rw [credit_snoc]
        exact min_le_right _ _
      have hsplit : rate * (e.1 - s) + rate * (τ - e.1) = rate * (τ - s) := by ring
      rw [if_pos ⟨hse, he⟩]
      linarith
    · have hnone : spent s e.1 l = 0 := by
        unfold spent
        rw [List.filter_eq_nil_iff.mpr, List.map_nil, List.sum_nil]
        intro a ha hin
        exact hse ((of_decide_eq_true hin).1.trans (hprev a ha))
      have hpos : 0 ≤ rate * (τ - s) := mul_nonneg hrate (sub_nonneg.mpr hs)
      have hcredit := credit_le burst rate (l ++ [e]) τ
      rw [if_neg fun h => hse h.1, hnone]
      linarith

theorem bounded_nil (hburst : 0 ≤ burst) (hrate : 0 ≤ rate) : Bounded burst rate [] := by
  intro s t hst
  have hpos : 0 ≤ rate * (t - s) := mul_nonneg hrate (sub_nonneg.mpr hst)
  rw [spent_nil]
  linarith

/-- **The bound.**  A charge within the credit keeps it. -/
theorem bounded_snoc {e : K × K} (hburst : 0 ≤ burst) (hrate : 0 ≤ rate) (hB : Bounded burst rate l)
    (hsorted : l.Pairwise fun a b => a.1 ≤ b.1) (hl : Until e.1 l) (he : e.2 ≤ credit burst rate l e.1) :
    Bounded burst rate (l ++ [e]) := by
  intro s t hst
  by_cases ht : e.1 ≤ t
  · have hsorted' : (l ++ [e]).Pairwise fun a b => a.1 ≤ b.1 := by
      refine List.pairwise_append.mpr ⟨hsorted, List.pairwise_singleton _ _, fun a ha b hb => ?_⟩
      rw [List.mem_singleton.mp hb]
      exact hl a ha
    have hl' : Until t (l ++ [e]) :=
      List.forall_mem_append.mpr ⟨fun a ha => (hl a ha).trans ht, by simpa using ht⟩
    have hleft := credit_snoc_nonneg hburst hrate he ht
    have hbound := spent_add_credit burst hrate hsorted' hl' hst
    linarith
  · rw [spent_snoc, if_neg fun h => ht h.2, add_zero]
    exact hB s t hst

end DTwin.TokenBucket
