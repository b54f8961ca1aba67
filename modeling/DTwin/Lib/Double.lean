import DTwin.Lib.Decimal
import DTwin.Lib.Text
import Mathlib.Data.Int.Log
import Mathlib.Data.Nat.Find
import Mathlib.Data.Rat.Floor
import Mathlib.Tactic.FieldSimp
import Mathlib.Tactic.Positivity

/-!
# DTwin.Lib.Double — the finite doubles, and their printing

A `Double` is a rational with 53 bits from the exponent -1074 up; `-0` is `0`, as `===` has it and as it prints.

* `round`: the double next to a positive rational, a half to the even one (`round_le`, `le_round`: with a relative error
  of `2 ^ -53`), and `nearest` to any (`nearest_mono`, `nearest_nearest`);
* `shortest`: the fewest digits that are rounded to a double, and of those the nearest;
* `print`: `Number::toString`, which lays those digits out;
* `read`: the reading of what is printed, and `read_print`: it gives the double back.
-/

namespace DTwin

/-- A magnitude of 53 bits; the largest is below `2 ^ 1024`. -/
def IsDouble (q : ℚ) : Prop := ∃ (m : ℕ) (e : ℤ), m < 2 ^ 53 ∧ -1074 ≤ e ∧ e ≤ 971 ∧ |q| = m * 2 ^ e

/-- A finite double. -/
structure Double where
  value : ℚ
  isDouble : IsDouble value

namespace Double

open Decimal (pointed)

theorem ext {x y : Double} (h : x.value = y.value) : x = y := by
  obtain ⟨q, hq⟩ := x
  obtain ⟨r, hr⟩ := y
  cases h
  rfl

/-! ## Rounding -/

/-- The natural number next to a rational that is not negative. -/
def roundEven (q : ℚ) : ℕ :=
  if 2 * (q - ⌊q⌋₊) < 1 then ⌊q⌋₊
  else if 1 < 2 * (q - ⌊q⌋₊) then ⌊q⌋₊ + 1
  else if ⌊q⌋₊ % 2 = 0 then ⌊q⌋₊
  else ⌊q⌋₊ + 1

/-- The exponent of the last bit of the doubles about a positive rational. -/
def lastBit (q : ℚ) : ℤ := max (Int.log 2 q - 52) (-1074)

/-- The double next to a positive rational, as if there were no largest. -/
def round (q : ℚ) : ℚ := roundEven (q / 2 ^ lastBit q) * 2 ^ lastBit q

/-- The double next to a rational. -/
def nearest (q : ℚ) : ℚ := if q < 0 then -round (-q) else round q

theorem roundEven_natCast (n : ℕ) : roundEven n = n := by
  rw [roundEven, Nat.floor_natCast, sub_self, mul_zero, if_pos one_pos]

theorem round_zero : round 0 = 0 := by
  have hzero : roundEven 0 = 0 := by exact_mod_cast roundEven_natCast 0
  rw [round, zero_div, hzero, Nat.cast_zero, zero_mul]

/-- What has 53 bits is next to itself, as if there were no largest double. -/
theorem round_of_bits {m : ℕ} {e : ℤ} (hpos : 0 < m) (hm : m < 2 ^ 53) (he : -1074 ≤ e) :
    round ((m : ℚ) * 2 ^ e) = m * 2 ^ e := by
  have htwo : (2 : ℚ) ≠ 0 := two_ne_zero
  have hlt : (m : ℚ) * 2 ^ e < ((2 : ℕ) : ℚ) ^ (e + 53) := by
    rw [Nat.cast_ofNat, zpow_add₀ htwo, mul_comm]
    refine mul_lt_mul_of_pos_left ?_ (zpow_pos two_pos _)
    exact_mod_cast hm
  have hq : (0 : ℚ) < m * 2 ^ e := mul_pos (by exact_mod_cast hpos) (zpow_pos two_pos _)
  have hlog : Int.log 2 ((m : ℚ) * 2 ^ e) < e + 53 := (Int.lt_zpow_iff_log_lt Nat.one_lt_two hq).mp hlt
  have hle : lastBit ((m : ℚ) * 2 ^ e) ≤ e := by
    rw [lastBit]
    omega
  rw [round]
  generalize lastBit ((m : ℚ) * 2 ^ e) = b at hle ⊢
  obtain ⟨i, hi⟩ := Int.le.dest hle
  have hquot : (m : ℚ) * 2 ^ e / 2 ^ b = ((m * 2 ^ i : ℕ) : ℚ) := by
    rw [div_eq_iff (zpow_ne_zero _ htwo), ← hi, zpow_add₀ htwo, zpow_natCast, Nat.cast_mul, Nat.cast_pow,
      Nat.cast_ofNat]
    ring
  rw [hquot, roundEven_natCast, ← hquot, div_mul_cancel₀ _ (zpow_ne_zero _ htwo)]

/-- A double is next to itself. -/
theorem round_eq_self {q : ℚ} (hq : 0 < q) (hdouble : IsDouble q) : round q = q := by
  obtain ⟨m, e, hm, he, -, habs⟩ := hdouble
  rw [abs_of_pos hq] at habs
  have hpos : 0 < m := by
    refine Nat.pos_of_ne_zero fun hzero => hq.ne' ?_
    rw [habs, hzero, Nat.cast_zero, zero_mul]
  rw [habs]
  exact round_of_bits hpos hm he

theorem roundEven_le {q : ℚ} (hq : 0 ≤ q) : (roundEven q : ℚ) ≤ q + 1 / 2 := by
  have hfloor : (⌊q⌋₊ : ℚ) ≤ q := Nat.floor_le hq
  unfold roundEven
  split_ifs with hbelow habove heven
  · linarith only [hfloor]
  · push_cast
    linarith only [habove]
  · linarith only [hfloor]
  · push_cast
    linarith only [hbelow]

/-- **The relative error** of rounding above the subnormal numbers. -/
theorem round_le {q : ℚ} (hq : 2 ^ (-1022 : ℤ) ≤ q) : round q ≤ q * (1 + 1 / 2 ^ 53) := by
  have hpos : 0 < q := (zpow_pos two_pos _).trans_le hq
  have hlog : -1022 ≤ Int.log 2 q := (Int.zpow_le_iff_le_log Nat.one_lt_two hpos).mp (by exact_mod_cast hq)
  have hbit : lastBit q = Int.log 2 q - 52 := max_eq_left (by omega)
  have hunit : (0 : ℚ) < 2 ^ lastBit q := zpow_pos two_pos _
  -- the last bit is worth `2 ^ -52` of the number at most
  have hsmall : (2 : ℚ) ^ lastBit q * 2 ^ 52 ≤ q := by
    have hle := Int.zpow_log_le_self (b := 2) Nat.one_lt_two hpos
    rw [hbit, ← zpow_natCast, ← zpow_add₀ two_ne_zero]
    simpa using hle
  have heven := mul_le_mul_of_nonneg_right (roundEven_le (div_nonneg hpos.le hunit.le)) hunit.le
  rw [add_mul, div_mul_cancel₀ _ hunit.ne'] at heven
  unfold round
  linarith only [heven, hsmall]

theorem zpow_log_le_round {q : ℚ} (hq : 2 ^ (-1022 : ℤ) ≤ q) : 2 ^ Int.log 2 q ≤ round q := by
  have hpos : 0 < q := (zpow_pos two_pos _).trans_le hq
  have hlog : -1022 ≤ Int.log 2 q := (Int.zpow_le_iff_le_log Nat.one_lt_two hpos).mp (by exact_mod_cast hq)
  have hbit : Int.log 2 q = (52 : ℕ) + lastBit q := by
    have : lastBit q = Int.log 2 q - 52 := max_eq_left (by omega)
    omega
  have hle : (2 : ℚ) ^ Int.log 2 q ≤ q := by exact_mod_cast Int.zpow_log_le_self (b := 2) Nat.one_lt_two hpos
  have hunit : (0 : ℚ) < 2 ^ lastBit q := zpow_pos two_pos _
  rw [hbit, zpow_add₀ two_ne_zero, zpow_natCast] at hle ⊢
  have hfloor : 2 ^ 52 ≤ ⌊q / 2 ^ lastBit q⌋₊ := by
    refine Nat.le_floor ?_
    rw [le_div_iff₀ hunit]
    exact_mod_cast hle
  have heven : 2 ^ 52 ≤ roundEven (q / 2 ^ lastBit q) := by
    unfold roundEven
    split_ifs <;> omega
  exact mul_le_mul_of_nonneg_right (by exact_mod_cast heven) hunit.le

theorem le_roundEven_add (q : ℚ) : q ≤ roundEven q + 1 / 2 := by
  have hfloor : q < ⌊q⌋₊ + 1 := Nat.lt_floor_add_one q
  unfold roundEven
  split_ifs with hbelow habove heven
  · linarith only [hbelow]
  · push_cast
    linarith only [hfloor]
  · linarith only [habove]
  · push_cast
    linarith only [hfloor]

theorem floor_le_roundEven (q : ℚ) : ⌊q⌋₊ ≤ roundEven q := by
  unfold roundEven
  split_ifs <;> omega

theorem roundEven_le_floor (q : ℚ) : roundEven q ≤ ⌊q⌋₊ + 1 := by
  unfold roundEven
  split_ifs <;> omega

theorem roundEven_mono {p q : ℚ} (hpq : p ≤ q) : roundEven p ≤ roundEven q := by
  have hfloor : ⌊p⌋₊ ≤ ⌊q⌋₊ := Nat.floor_mono hpq
  rcases hfloor.lt_or_eq with hlt | heq
  · exact (roundEven_le_floor p).trans (hlt.trans_le (floor_le_roundEven q))
  · unfold roundEven
    rw [heq]
    split_ifs with h₁ h₂ h₃ h₄ h₅ h₆ <;> first | omega | (exfalso; linarith)

theorem round_round (q : ℚ) : round (round q) = round q := by
  have hbits : ((2 ^ 53 : ℕ) : ℚ) = 2 ^ (53 : ℤ) := by norm_num
  have hunit : (0 : ℚ) < 2 ^ lastBit q := zpow_pos two_pos _
  have hlog : Int.log 2 q + 1 ≤ 53 + lastBit q := by
    unfold lastBit
    omega
  have hle : roundEven (q / 2 ^ lastBit q) ≤ 2 ^ 53 := by
    rw [← roundEven_natCast (2 ^ 53)]
    refine roundEven_mono ?_
    rw [hbits, div_le_iff₀ hunit, ← zpow_add₀ two_ne_zero]
    have hlt : q < (2 : ℚ) ^ (Int.log 2 q + 1) := by exact_mod_cast Int.lt_zpow_succ_log_self (b := 2) Nat.one_lt_two q
    exact hlt.le.trans (zpow_le_zpow_right₀ one_le_two hlog)
  have hbit : -1074 ≤ lastBit q := le_max_right _ _
  show round (roundEven (q / 2 ^ lastBit q) * 2 ^ lastBit q) = roundEven (q / 2 ^ lastBit q) * 2 ^ lastBit q
  rcases Nat.eq_zero_or_pos (roundEven (q / 2 ^ lastBit q)) with hzero | hpos
  · rw [hzero, Nat.cast_zero, zero_mul, round_zero]
  · rcases hle.lt_or_eq with hlt | heq
    · exact round_of_bits hpos hlt hbit
    · -- a carry into the next power of two
      have hcarry : ((2 ^ 53 : ℕ) : ℚ) * 2 ^ lastBit q = ((2 ^ 52 : ℕ) : ℚ) * 2 ^ (lastBit q + 1) := by
        rw [zpow_add_one₀ two_ne_zero]
        push_cast
        ring
      rw [heq, hcarry]
      exact round_of_bits (by norm_num) (by norm_num) (by omega)

/-- Rounding loses a part in `2 ^ 53`, or half of the smallest double. -/
theorem le_round {q : ℚ} (hpos : 0 < q) : q - (q / 2 ^ 53 + 2 ^ (-1075 : ℤ)) ≤ round q := by
  have hunit : (0 : ℚ) < 2 ^ lastBit q := zpow_pos two_pos _
  have heven := mul_le_mul_of_nonneg_right (le_roundEven_add (q / 2 ^ lastBit q)) hunit.le
  rw [div_mul_cancel₀ _ hunit.ne', add_mul] at heven
  have hbit : (2 : ℚ) ^ lastBit q / 2 ≤ q / 2 ^ 53 + 2 ^ (-1075 : ℤ) := by
    rcases max_choice (Int.log 2 q - 52) (-1074) with hmax | hmax
    · have hle : (2 : ℚ) ^ Int.log 2 q ≤ q := by exact_mod_cast Int.zpow_log_le_self (b := 2) Nat.one_lt_two hpos
      have hhalf : (2 : ℚ) ^ lastBit q / 2 = 2 ^ Int.log 2 q / 2 ^ 53 := by
        rw [lastBit, hmax, zpow_sub₀ two_ne_zero]
        norm_num
        ring
      have hrest : (0 : ℚ) ≤ 2 ^ (-1075 : ℤ) := (zpow_pos two_pos _).le
      have hdiv := div_le_div_of_nonneg_right hle (by positivity : (0 : ℚ) ≤ 2 ^ 53)
      rw [hhalf]
      linarith only [hrest, hdiv]
    · have hhalf : (2 : ℚ) ^ lastBit q / 2 = 2 ^ (-1075 : ℤ) := by
        rw [lastBit, hmax, div_eq_iff two_ne_zero, ← zpow_add_one₀ two_ne_zero]
        norm_num
      rw [hhalf]
      exact le_add_of_nonneg_left (by positivity)
  unfold round
  linarith only [heven, hbit]

theorem lastBit_mono {p q : ℚ} (hp : 0 < p) (hpq : p ≤ q) : lastBit p ≤ lastBit q :=
  max_le_max_right _ (Int.sub_le_sub_right (Int.log_mono_right hp hpq) _)

theorem round_nonneg (q : ℚ) : 0 ≤ round q := mul_nonneg (Nat.cast_nonneg _) (zpow_pos two_pos _).le

theorem round_mono {p q : ℚ} (hp : 0 ≤ p) (hpq : p ≤ q) : round p ≤ round q := by
  rcases hp.eq_or_lt with rfl | hpos
  · rw [round_zero]
    exact round_nonneg q
  · have hunit (x : ℚ) : (0 : ℚ) < 2 ^ lastBit x := zpow_pos two_pos _
    rcases (lastBit_mono hpos hpq).lt_or_eq with hlt | heq
    · -- the first is below a power of two, and the second is not
      have hlog : Int.log 2 p < Int.log 2 q ∧ -1022 ≤ Int.log 2 q ∧ lastBit p ≤ Int.log 2 q := by
        unfold lastBit at hlt ⊢
        omega
      have hself {x : ℚ} (hx : 0 < x) : (2 : ℚ) ^ Int.log 2 x ≤ x := by
        exact_mod_cast Int.zpow_log_le_self (b := 2) Nat.one_lt_two hx
      have hq : (2 : ℚ) ^ (-1022 : ℤ) ≤ q :=
        (zpow_le_zpow_right₀ one_le_two hlog.2.1).trans (hself (hpos.trans_le hpq))
      have hp : p ≤ 2 ^ Int.log 2 q := by
        have hlt : p < (2 : ℚ) ^ (Int.log 2 p + 1) := by
          exact_mod_cast Int.lt_zpow_succ_log_self (b := 2) Nat.one_lt_two p
        exact hlt.le.trans (zpow_le_zpow_right₀ one_le_two hlog.1)
      refine le_trans ?_ (zpow_log_le_round hq)
      obtain ⟨n, hn⟩ := Int.le.dest hlog.2.2
      have hpower : (2 : ℚ) ^ Int.log 2 q = ((2 ^ n : ℕ) : ℚ) * 2 ^ lastBit p := by
        rw [← hn, add_comm, zpow_add₀ two_ne_zero, zpow_natCast, Nat.cast_pow, Nat.cast_ofNat]
      rw [hpower] at hp ⊢
      refine mul_le_mul_of_nonneg_right ?_ (hunit p).le
      rw [← roundEven_natCast (2 ^ n)]
      exact_mod_cast roundEven_mono ((div_le_iff₀ (hunit p)).mpr hp)
    · rw [round, round, heq]
      refine mul_le_mul_of_nonneg_right ?_ (hunit q).le
      exact_mod_cast roundEven_mono (div_le_div_of_nonneg_right hpq (hunit q).le)

theorem nearest_of_nonneg {q : ℚ} (hq : 0 ≤ q) : nearest q = round q := if_neg (not_lt.mpr hq)

theorem nearest_nonneg {q : ℚ} (hq : 0 ≤ q) : 0 ≤ nearest q := by
  rw [nearest_of_nonneg hq]
  exact mul_nonneg (Nat.cast_nonneg _) (zpow_pos two_pos _).le

/-- Rounding keeps the order. -/
theorem nearest_mono {p q : ℚ} (hpq : p ≤ q) : nearest p ≤ nearest q := by
  unfold nearest
  split_ifs with hp hq hq
  · exact neg_le_neg (round_mono (neg_nonneg.mpr hq.le) (neg_le_neg hpq))
  · exact (neg_nonpos.mpr (round_nonneg _)).trans (round_nonneg q)
  · exact absurd (hpq.trans_lt hq) hp
  · exact round_mono (not_lt.mp hp) hpq

/-- What is rounded stays as it is. -/
theorem nearest_nearest (q : ℚ) : nearest (nearest q) = nearest q := by
  by_cases hq : q < 0
  · have hneg : nearest q = -round (-q) := if_pos hq
    rcases (round_nonneg (-q)).eq_or_lt with hzero | hpos
    · rw [hneg, ← hzero, neg_zero, nearest_of_nonneg le_rfl, round_zero]
    · rw [hneg, nearest, if_pos (neg_neg_of_pos hpos), neg_neg, round_round]
  · rw [nearest_of_nonneg (not_lt.mp hq), nearest_of_nonneg (round_nonneg q), round_round]

theorem nearest_zero : nearest 0 = 0 := by
  rw [nearest_of_nonneg le_rfl, round_zero]

theorem nearest_eq_self {q : ℚ} (hq : 0 < q) (hdouble : IsDouble q) : nearest q = q := by
  rw [nearest_of_nonneg hq.le, round_eq_self hq hdouble]

theorem le_nearest {q : ℚ} (hq : 0 ≤ q) : q - (q / 2 ^ 53 + 2 ^ (-1075 : ℤ)) ≤ nearest q := by
  rw [nearest_of_nonneg hq]
  rcases hq.eq_or_lt with rfl | hpos
  · rw [round_zero, zero_div, zero_add, zero_sub, neg_nonpos]
    exact (zpow_pos two_pos _).le
  · exact le_round hpos

/-- Zero, or too large to be subnormal. -/
def Normal (q : ℚ) : Prop := q = 0 ∨ 2 ^ (-1022 : ℤ) ≤ q

namespace Normal

variable {p q : ℚ}

theorem nonneg (hq : Normal q) : 0 ≤ q := hq.elim (fun h => h.ge) fun h => (zpow_pos two_pos _).le.trans h

theorem add (hp : Normal p) (hq : Normal q) : Normal (p + q) := by
  rcases hp with rfl | hp
  · rwa [zero_add]
  · exact .inr (hp.trans (le_add_of_nonneg_right hq.nonneg))

theorem nearest (hq : Normal q) : Normal (nearest q) := by
  rw [nearest_of_nonneg hq.nonneg]
  rcases hq with rfl | hq
  · exact .inl round_zero
  · have hpos : 0 < q := (zpow_pos two_pos _).trans_le hq
    have hlog : -1022 ≤ Int.log 2 q := (Int.zpow_le_iff_le_log Nat.one_lt_two hpos).mp (by exact_mod_cast hq)
    exact .inr ((zpow_le_zpow_right₀ one_le_two hlog).trans (zpow_log_le_round hq))

theorem nearest_le (hq : Normal q) : Double.nearest q ≤ q * (1 + 1 / 2 ^ 53) := by
  rw [nearest_of_nonneg hq.nonneg]
  rcases hq with rfl | hq
  · rw [round_zero, zero_mul]
  · exact round_le hq

end Normal

/-! ## Digits -/

/-- Digits, and how many of them stand before the point. -/
structure Numeral where
  significand : ℕ
  point : ℤ

namespace Numeral

def digits (c : Numeral) : List Char := Nat.toDigits 10 c.significand

def value (c : Numeral) : ℚ := c.significand * 10 ^ (c.point - c.digits.length)

end Numeral

/-- How many digits of a positive rational stand before its point. -/
def pointOf (x : ℚ) : ℤ := Int.log 10 x + 1

/-- The numeral of `k` digits next below. -/
def below (x : ℚ) (k : ℕ) : Numeral := ⟨⌊x * 10 ^ (k - pointOf x)⌋₊, pointOf x⟩

/-- The numeral of `k` digits next above. -/
def above (x : ℚ) (k : ℕ) : Numeral :=
  if (below x k).significand + 1 = 10 ^ k then ⟨10 ^ (k - 1), pointOf x + 1⟩
  else ⟨(below x k).significand + 1, pointOf x⟩

/-- The numeral of `k` digits that is rounded to `x`: the nearer one if both are, and of two as near the even one. -/
def pick (x : ℚ) (k : ℕ) : Option Numeral :=
  if round (below x k).value = x ∧
      (round (above x k).value ≠ x ∨ x - (below x k).value < (above x k).value - x ∨
        x - (below x k).value = (above x k).value - x ∧ (below x k).significand % 2 = 0) then
    some (below x k)
  else if round (above x k).value = x then some (above x k)
  else none

/-- The fewest digits that are rounded to `x`. -/
def shortest (x : ℚ) (h : ∃ k, 1 ≤ k ∧ (pick x k).isSome = true) : Numeral :=
  (pick x (Nat.find h)).get (Nat.find_spec h).2

theorem round_pick {x : ℚ} {k : ℕ} {c : Numeral} (hc : pick x k = some c) : round c.value = x := by
  unfold pick at hc
  split_ifs at hc with hbelow habove
  · exact Option.some.inj hc ▸ hbelow.1
  · exact Option.some.inj hc ▸ habove

theorem round_shortest {x : ℚ} (h : ∃ k, 1 ≤ k ∧ (pick x k).isSome = true) : round (shortest x h).value = x :=
  round_pick (Option.some_get _).symm

/-- With enough digits a double is a numeral. -/
theorem exists_below {x : ℚ} (hx : 0 < x) (hdouble : IsDouble x) : ∃ k, 1 ≤ k ∧ (below x k).value = x := by
  obtain ⟨m, e, -, -, -, habs⟩ := hdouble
  rw [abs_of_pos hx] at habs
  have hten : (10 : ℚ) ≠ 0 := OfNat.ofNat_ne_zero 10
  refine ⟨(pointOf x + (-e).toNat).toNat + 1, Nat.le_add_left _ _, ?_⟩
  set k := (pointOf x + (-e).toNat).toNat + 1 with hk
  obtain ⟨i, hi⟩ : ∃ i : ℕ, (k : ℤ) - pointOf x = i := ⟨((k : ℤ) - pointOf x).toNat, by omega⟩
  obtain ⟨j, hj⟩ : ∃ j : ℕ, e + i = j := ⟨(e + i).toNat, by omega⟩
  -- `x` with the point after its last digit
  have hnat : x * 10 ^ ((k : ℤ) - pointOf x) = ((m * 2 ^ j * 5 ^ i : ℕ) : ℚ) := by
    have hpow : (10 : ℚ) ^ (i : ℤ) = 2 ^ (i : ℤ) * 5 ^ (i : ℤ) := by
      rw [← mul_zpow]
      norm_num
    have htwo : (2 : ℚ) ^ e * 2 ^ (i : ℤ) = 2 ^ j := by rw [← zpow_add₀ two_ne_zero, hj, zpow_natCast]
    rw [hi, habs, hpow, ← mul_assoc, mul_assoc (m : ℚ), htwo, zpow_natCast]
    push_cast
    ring
  have hsignificand : (below x k).significand = m * 2 ^ j * 5 ^ i := by
    show ⌊x * 10 ^ ((k : ℤ) - pointOf x)⌋₊ = _
    rw [hnat, Nat.floor_natCast]
  have hlength : (below x k).digits.length = k := by
    have hlower := Int.zpow_log_le_self (b := 10) (by decide) hx
    have hupper := Int.lt_zpow_succ_log_self (b := 10) (by decide) x
    have hpos : (0 : ℚ) < 10 ^ ((k : ℤ) - pointOf x) := zpow_pos (by norm_num) _
    have hcast : ((below x k).significand : ℚ) = x * 10 ^ ((k : ℤ) - pointOf x) := by rw [hsignificand, hnat]
    have hlt : (below x k).significand < 10 ^ k := by
      have := mul_lt_mul_of_pos_right hupper hpos
      rw [Nat.cast_ofNat, ← zpow_add₀ hten, ← hcast, pointOf, add_sub_cancel, zpow_natCast] at this
      exact_mod_cast this
    have hge : ¬ (below x k).significand < 10 ^ (k - 1) := by
      have := mul_le_mul_of_nonneg_right hlower hpos.le
      have hexp : Int.log 10 x + ((k : ℤ) - pointOf x) = ((k - 1 : ℕ) : ℤ) := by
        rw [pointOf]
        omega
      rw [Nat.cast_ofNat, ← zpow_add₀ hten, ← hcast, hexp, zpow_natCast] at this
      exact not_lt.mpr (by exact_mod_cast this)
    refine Nat.le_antisymm ((Nat.length_toDigits_le_iff (by decide) (Nat.succ_pos _)).mpr hlt) ?_
    by_contra hshort
    rcases Nat.eq_zero_or_pos (k - 1) with hzero | hpos'
    · have hdigits : 0 < (below x k).digits.length := Nat.length_toDigits_pos
      omega
    · exact hge ((Nat.length_toDigits_le_iff (by decide) hpos').mp (by
        have : (Nat.toDigits 10 (below x k).significand).length = (below x k).digits.length := rfl
        omega))
  rw [Numeral.value, hlength, hsignificand, ← hnat]
  show x * 10 ^ ((k : ℤ) - pointOf x) * 10 ^ (pointOf x - k) = x
  rw [mul_assoc, ← zpow_add₀ hten, sub_add_sub_cancel, sub_self, zpow_zero, mul_one]

theorem exists_pick {x : ℚ} (hx : 0 < x) (hdouble : IsDouble x) : ∃ k, 1 ≤ k ∧ (pick x k).isSome = true := by
  obtain ⟨k, hk, hvalue⟩ := exists_below hx hdouble
  refine ⟨k, hk, ?_⟩
  have hround : round (below x k).value = x := by rw [hvalue, round_eq_self hx hdouble]
  unfold pick
  split_ifs with hbelow habove
  · rfl
  · rfl
  · exact absurd ⟨hround, Or.inl habove⟩ hbelow

/-! ## Printing -/

def exponent (e : ℤ) : List Char := 'e' :: (if e < 0 then '-' else '+') :: Nat.toDigits 10 e.natAbs

/-- The digits with a point among, before or behind them, or with an exponent. -/
def layout (c : Numeral) : List Char :=
  if c.digits.length ≤ c.point ∧ c.point ≤ 21 then
    c.digits ++ List.replicate (c.point - c.digits.length).toNat '0'
  else if 0 < c.point ∧ c.point ≤ 21 then
    c.digits.take c.point.toNat ++ '.' :: c.digits.drop c.point.toNat
  else if -6 < c.point ∧ c.point ≤ 0 then
    '0' :: '.' :: (List.replicate (-c.point).toNat '0' ++ c.digits)
  else c.digits.take 1 ++ pointed (c.digits.drop 1) ++ exponent (c.point - 1)

theorem isDouble_abs {q : ℚ} (h : IsDouble q) : IsDouble |q| := by
  obtain ⟨m, e, hm, hlow, hhigh, habs⟩ := h
  exact ⟨m, e, hm, hlow, hhigh, by rw [abs_abs, habs]⟩

/-- `Number::toString`. -/
def print (x : Double) : List Char :=
  if h : x.value = 0 then ['0']
  else (if x.value < 0 then ['-'] else []) ++
    layout (shortest |x.value| (exists_pick (abs_pos.mpr h) (isDouble_abs x.isDouble)))

/-! ## Reading -/

def readExponent : List Char → ℤ
  | 'e' :: '-' :: l => -Nat.ofDigitChars 10 l 0
  | 'e' :: '+' :: l => Nat.ofDigitChars 10 l 0
  | _ => 0

/-- The digits behind a point, and what follows them. -/
def cutFraction : List Char → List Char × List Char
  | '.' :: l => (l.takeWhile Char.isDigit, l.dropWhile Char.isDigit)
  | l => ([], l)

def readDecimal (l : List Char) : ℚ :=
  let whole := l.takeWhile Char.isDigit
  let (fraction, tail) := cutFraction (l.dropWhile Char.isDigit)
  Nat.ofDigitChars 10 (whole ++ fraction) 0 * 10 ^ (readExponent tail - fraction.length)

def read : List Char → ℚ
  | '-' :: l => -round (readDecimal l)
  | l => round (readDecimal l)

section Reading

variable {w f l : List Char} {c : Numeral}

theorem isDigit_of_mem_digits {a : Char} (ha : a ∈ c.digits) : a.isDigit = true :=
  Nat.isDigit_of_mem_toDigits (by decide) (by decide) ha

theorem readExponent_nil : readExponent [] = 0 := rfl

theorem cutFraction_of_ne (hl : ∀ a ∈ l.head?, a ≠ '.') : cutFraction l = ([], l) := by
  unfold cutFraction
  split
  · exact absurd rfl (hl '.' rfl)
  · rfl

theorem readDecimal_parts (hw : ∀ a ∈ w, a.isDigit = true) (hf : ∀ a ∈ f, a.isDigit = true)
    (hl : ∀ a ∈ l.head?, a.isDigit = false ∧ a ≠ '.') :
    readDecimal (w ++ pointed f ++ l) =
      Nat.ofDigitChars 10 (w ++ f) 0 * 10 ^ (readExponent l - f.length) := by
  cases f with
  | nil =>
    obtain ⟨htake, hdrop⟩ := Text.takeWhile_append hw fun a ha => (hl a ha).1
    rw [pointed, List.append_nil, readDecimal, htake, hdrop, cutFraction_of_ne fun a ha => (hl a ha).2]
    show (Nat.ofDigitChars 10 (w ++ []) 0 : ℚ) * 10 ^ (readExponent l - (([] : List Char).length : ℤ)) = _
    rw [List.append_nil]
  | cons d f =>
    have hpoint : ∀ a ∈ (('.' :: d :: f) ++ l).head?, a.isDigit = false := by
      intro a ha
      cases ha
      rfl
    obtain ⟨htake, hdrop⟩ := Text.takeWhile_append hw hpoint
    obtain ⟨htake', hdrop'⟩ := Text.takeWhile_append hf fun a ha => (hl a ha).1
    rw [pointed, List.append_assoc, readDecimal, htake, hdrop, List.cons_append]
    show Nat.ofDigitChars 10 (w ++ ((d :: f) ++ l).takeWhile Char.isDigit) 0 *
      (10 : ℚ) ^ (readExponent (((d :: f) ++ l).dropWhile Char.isDigit) -
        ((((d :: f) ++ l).takeWhile Char.isDigit).length : ℤ)) = _
    rw [htake', hdrop']

theorem readExponent_exponent (e : ℤ) : readExponent (exponent e) = e := by
  have hread : (Nat.ofDigitChars 10 (Nat.toDigits 10 e.natAbs) 0 : ℤ) = |e| := by
    rw [Nat.ofDigitChars_ten_toDigits, Int.natCast_natAbs]
  unfold exponent
  split_ifs with he
  · show -(Nat.ofDigitChars 10 (Nat.toDigits 10 e.natAbs) 0 : ℤ) = e
    rw [hread, abs_of_neg he, neg_neg]
  · show (Nat.ofDigitChars 10 (Nat.toDigits 10 e.natAbs) 0 : ℤ) = e
    rw [hread, abs_of_nonneg (not_lt.mp he)]

/-- A point is put where it belongs, and an exponent with it. -/
theorem readDecimal_layout (c : Numeral) : readDecimal (layout c) = c.value := by
  have hdigits : ∀ a ∈ c.digits, a.isDigit = true := fun a ha => isDigit_of_mem_digits ha
  have hread : Nat.ofDigitChars 10 c.digits 0 = c.significand := Nat.ofDigitChars_ten_toDigits
  have hpos : 0 < c.digits.length := Nat.length_toDigits_pos
  have hnone : ∀ a ∈ ([] : List Char).head?, a.isDigit = false ∧ a ≠ '.' := by
    intro a ha
    cases ha
  unfold layout
  split_ifs with hwhole hamong hbefore
  · obtain ⟨i, hi⟩ := Int.le.dest hwhole.1
    have hzeros : (c.point - c.digits.length).toNat = i := by omega
    have hall : ∀ a ∈ c.digits ++ List.replicate i '0', a.isDigit = true := by
      intro a ha
      rcases List.mem_append.mp ha with ha | ha
      · exact hdigits a ha
      · rw [(List.mem_replicate.mp ha).2]
        rfl
    have hparts := readDecimal_parts hall (List.forall_mem_nil _) hnone
    simp only [pointed, List.append_nil] at hparts
    rw [hzeros, hparts, Nat.ofDigitChars_append, hread, Nat.ofDigitChars_replicate_zero, Numeral.value,
      show c.point - c.digits.length = i by omega, zpow_natCast]
    simp only [readExponent_nil, List.length_nil, Nat.cast_zero, sub_zero, zpow_zero, mul_one]
    push_cast
    ring
  · have hlt : c.point.toNat < c.digits.length := by
      have := fun h => hwhole ⟨h, hamong.2⟩
      omega
    obtain ⟨d, f, hf⟩ : ∃ d f, c.digits.drop c.point.toNat = d :: f :=
      List.exists_cons_of_ne_nil (by rw [Ne, List.drop_eq_nil_iff]; omega)
    have hlen := congrArg List.length hf
    rw [List.length_drop] at hlen
    have hparts := readDecimal_parts (w := c.digits.take c.point.toNat) (f := c.digits.drop c.point.toNat)
      (fun a ha => hdigits a (List.mem_of_mem_take ha)) (fun a ha => hdigits a (List.mem_of_mem_drop ha)) hnone
    rw [List.take_append_drop, hread, hf, pointed, List.append_nil] at hparts
    rw [hf, hparts, Numeral.value, readExponent_nil, ← hlen]
    congr 2
    omega
  · have hall : ∀ a ∈ List.replicate (-c.point).toNat '0' ++ c.digits, a.isDigit = true := by
      intro a ha
      rcases List.mem_append.mp ha with ha | ha
      · rw [(List.mem_replicate.mp ha).2]
        rfl
      · exact hdigits a ha
    obtain ⟨d, f, hf⟩ : ∃ d f, List.replicate (-c.point).toNat '0' ++ c.digits = d :: f :=
      List.exists_cons_of_ne_nil (by rw [Ne, List.append_eq_nil_iff, ← List.length_eq_zero_iff (l := c.digits)]; omega)
    have hzero : ∀ a ∈ ['0'], a.isDigit = true := fun a ha => by
      rw [List.mem_singleton.mp ha]
      rfl
    have hlen := congrArg List.length hf
    rw [List.length_append, List.length_replicate] at hlen
    have hparts := readDecimal_parts hzero hall hnone
    have hvalue : Nat.ofDigitChars 10 (['0'] ++ (List.replicate (-c.point).toNat '0' ++ c.digits)) 0 =
      c.significand := by
      rw [← List.append_assoc, Nat.ofDigitChars_append]
      show Nat.ofDigitChars 10 c.digits (Nat.ofDigitChars 10 (List.replicate 1 '0' ++ List.replicate _ '0') 0) = _
      rw [List.replicate_append_replicate, Nat.ofDigitChars_replicate_zero, Nat.mul_zero, hread]
    rw [hvalue, hf, pointed, List.append_nil] at hparts
    rw [hf]
    refine hparts.trans ?_
    rw [Numeral.value, readExponent_nil, ← hlen]
    congr 2
    omega
  · have hexp : ∀ a ∈ (exponent (c.point - 1)).head?, a.isDigit = false ∧ a ≠ '.' := by
      intro a ha
      cases ha
      exact ⟨rfl, by decide⟩
    rw [readDecimal_parts (fun a ha => hdigits a (List.mem_of_mem_take ha))
      (fun a ha => hdigits a (List.mem_of_mem_drop ha)) hexp, List.take_append_drop, hread, readExponent_exponent,
      Numeral.value, List.length_drop]
    congr 2
    omega

/-- The characters that a number is printed with. -/
def isNumeric (a : Char) : Bool := a.isDigit || ['-', '+', '.', 'e'].contains a

theorem isNumeric_of_isDigit {a : Char} (ha : a.isDigit = true) : isNumeric a = true := by
  rw [isNumeric, ha, Bool.true_or]

theorem isNumeric_of_mem_exponent {e : ℤ} {a : Char} (ha : a ∈ exponent e) : isNumeric a = true := by
  rcases List.mem_cons.mp ha with rfl | ha
  · rfl
  · rcases List.mem_cons.mp ha with rfl | ha
    · split_ifs
      · rfl
      · rfl
    · exact isNumeric_of_isDigit (Nat.isDigit_of_mem_toDigits (by decide) (by decide) ha)

theorem isNumeric_of_mem_layout {a : Char} (ha : a ∈ layout c) : isNumeric a = true := by
  have hzeros : ∀ {n : ℕ}, a ∈ List.replicate n '0' → isNumeric a = true := fun h => by
    rw [(List.mem_replicate.mp h).2]
    rfl
  have hdigits : a ∈ c.digits → isNumeric a = true := fun h => isNumeric_of_isDigit (isDigit_of_mem_digits h)
  unfold layout at ha
  split_ifs at ha
  · exact (List.mem_append.mp ha).elim hdigits hzeros
  · rcases List.mem_append.mp ha with ha | ha
    · exact hdigits (List.mem_of_mem_take ha)
    · rcases List.mem_cons.mp ha with rfl | ha
      · rfl
      · exact hdigits (List.mem_of_mem_drop ha)
  · rcases List.mem_cons.mp ha with rfl | ha
    · rfl
    · rcases List.mem_cons.mp ha with rfl | ha
      · rfl
      · exact (List.mem_append.mp ha).elim hzeros hdigits
  · rcases List.mem_append.mp ha with ha | ha
    · rcases List.mem_append.mp ha with ha | ha
      · exact hdigits (List.mem_of_mem_take ha)
      · rcases Decimal.mem_of_mem_pointed ha with rfl | ha
        · rfl
        · exact hdigits (List.mem_of_mem_drop ha)
    · exact isNumeric_of_mem_exponent ha

theorem exists_layout (c : Numeral) : ∃ a l, layout c = a :: l ∧ a.isDigit = true := by
  obtain ⟨d, ds, hds⟩ := List.exists_cons_of_ne_nil (Nat.toDigits_ne_nil (n := c.significand) (b := 10))
  have hdigits : c.digits = d :: ds := hds
  have hd : d.isDigit = true := isDigit_of_mem_digits (hdigits ▸ List.mem_cons_self)
  unfold layout
  split_ifs with hwhole hamong hbefore
  · exact ⟨d, _, by rw [hdigits]; rfl, hd⟩
  · obtain ⟨n, hn⟩ : ∃ n, c.point.toNat = n + 1 := ⟨c.point.toNat - 1, by omega⟩
    exact ⟨d, _, by rw [hdigits, hn]; rfl, hd⟩
  · exact ⟨'0', _, rfl, rfl⟩
  · exact ⟨d, _, by rw [hdigits]; rfl, hd⟩

end Reading

/-- A number is printed with a digit in front, or with a minus. -/
theorem exists_print (x : Double) :
    (∀ a ∈ print x, isNumeric a = true) ∧ ∃ a l, print x = a :: l ∧ (a.isDigit = true ∨ a = '-') := by
  unfold print
  split_ifs with hzero hneg
  · refine ⟨fun a ha => ?_, '0', [], rfl, Or.inl rfl⟩
    rw [List.mem_singleton.mp ha]
    rfl
  · refine ⟨fun a ha => ?_, '-', _, rfl, Or.inr rfl⟩
    rcases List.mem_cons.mp ha with rfl | ha
    · rfl
    · exact isNumeric_of_mem_layout ha
  · obtain ⟨a, l, hl, ha⟩ := exists_layout (shortest |x.value|
      (exists_pick (abs_pos.mpr hzero) (isDouble_abs x.isDouble)))
    exact ⟨fun b hb => isNumeric_of_mem_layout hb, a, l, hl, Or.inl ha⟩

/-- **Printing.**  What is printed of a double is read as it. -/
theorem read_print (x : Double) : read (print x) = x.value := by
  unfold print
  split_ifs with hzero hneg
  · have hread : readDecimal ['0'] = 0 := zero_mul _
    show round (readDecimal ['0']) = x.value
    rw [hread, round_zero, hzero]
  · show -round (readDecimal (layout _)) = x.value
    rw [readDecimal_layout, round_shortest, abs_of_neg hneg, neg_neg]
  · obtain ⟨a, l, hl, ha⟩ := exists_layout (shortest |x.value|
      (exists_pick (abs_pos.mpr hzero) (isDouble_abs x.isDouble)))
    have hread : read (a :: l) = round (readDecimal (a :: l)) := by
      unfold read
      split
      · rename_i heq
        rw [(List.cons.inj heq).1] at ha
        cases ha
      · rfl
    rw [List.nil_append, hl, hread, ← hl, readDecimal_layout, round_shortest, abs_of_nonneg (not_lt.mp hneg)]

theorem print_injective {x y : Double} (h : print x = print y) : x = y :=
  ext (by rw [← read_print x, h, read_print y])

end Double

end DTwin
