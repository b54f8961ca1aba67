import Mathlib.Algebra.Order.Field.Rat
import Mathlib.Data.List.TakeWhile
import Mathlib.Data.Rat.Floor
import Mathlib.Tactic.Common
import Mathlib.Tactic.Linarith
import Mathlib.Tactic.Ring

/-!
# DTwin.Lib.Decimal — rationals rounded, and written with a fixed number of places

* `mathRound`: the nearest integer;
* `fixed q d grouping`: `q` at `d` decimal places, a half rounded away from zero, with commas between the
  thousands when `grouping`; a negative number keeps its sign when it rounds to zero;
* `rounded q d`: the rational which that is a numeral of;
* `readChars`: the reading of a numeral without commas, and `readChars_fixed`: it reads `fixed` as `rounded`;
* `ungrouped`: a numeral less its commas, and `ungrouped_fixed`: grouping adds nothing but commas;
* `places`: how many digits stand after the point.

Nothing here knows what is being written.
-/

namespace DTwin.Decimal

/-- `Math.round`: the nearest integer, a half rounded up. -/
def mathRound (x : ℚ) : ℤ := ⌊x + 1 / 2⌋

theorem mathRound_le {x : ℚ} {n : ℤ} (h : x ≤ n) : mathRound x ≤ n := by
  have hfloor : mathRound x < n + 1 := by
    rw [mathRound, Int.floor_lt]
    push_cast
    linarith
  omega

/-- `|q|` in units of the last of `d` places. -/
def units (q : ℚ) (d : ℕ) : ℕ := (2 * q.num.natAbs * 10 ^ d + q.den) / (2 * q.den)

def rounded (q : ℚ) (d : ℕ) : ℚ := if q.num < 0 then -((units q d : ℚ) / 10 ^ d) else (units q d : ℚ) / 10 ^ d

/-- The digits of `n`, at least one of them before the last `d`. -/
def digits (n d : ℕ) : List Char := List.leftpad (d + 1) '0' (Nat.toDigits 10 n)

def whole (n d : ℕ) : List Char := (digits n d).take ((digits n d).length - d)

def fraction (n d : ℕ) : List Char := (digits n d).drop ((digits n d).length - d)

/-- Commas before every third digit, the digits given from the last. -/
def groupFromLast : List Char → List Char
  | a :: b :: c :: e :: l => a :: b :: c :: ',' :: groupFromLast (e :: l)
  | l => l

def group (l : List Char) : List Char := (groupFromLast l.reverse).reverse

/-- The fraction after its point, where there is one. -/
def pointed : List Char → List Char
  | [] => []
  | c :: l => '.' :: c :: l

def unsigned (q : ℚ) (d : ℕ) (grouping : Bool) : List Char :=
  (if grouping then group (whole (units q d) d) else whole (units q d) d) ++ pointed (fraction (units q d) d)

def fixed (q : ℚ) (d : ℕ) (grouping : Bool) : List Char :=
  if q.num < 0 then '-' :: unsigned q d grouping else unsigned q d grouping

/-- Digits, and where there is a point digits after it. -/
def readUnsigned (l : List Char) : Option ℚ :=
  let whole := l.takeWhile Char.isDigit
  match l.dropWhile Char.isDigit with
  | [] => if whole = [] then none else some (Nat.ofDigitChars 10 whole 0)
  | '.' :: fraction =>
    if whole ≠ [] ∧ fraction ≠ [] ∧ fraction.all Char.isDigit = true then
      some ((Nat.ofDigitChars 10 (whole ++ fraction) 0 : ℚ) / 10 ^ fraction.length)
    else none
  | _ => none

def readChars : List Char → Option ℚ
  | '-' :: l => (readUnsigned l).map fun q => -q
  | l => readUnsigned l

def ungrouped (l : List Char) : List Char := l.filter (· ≠ ',')

def places (l : List Char) : ℕ := (l.dropWhile (· ≠ '.')).length - 1

section Digits

variable {n d : ℕ} {c : Char} {l : List Char}

theorem isDigit_of_mem_digits (hc : c ∈ digits n d) : c.isDigit = true := by
  obtain hc | hc := List.mem_append.mp hc
  · rw [(List.mem_replicate.mp hc).2]
    rfl
  · exact Nat.isDigit_of_mem_toDigits (by decide) (by decide) hc

theorem whole_append_fraction : whole n d ++ fraction n d = digits n d := List.take_append_drop _ _

theorem lt_length_digits : d < (digits n d).length := by
  rw [digits, List.length_leftpad]
  omega

theorem whole_ne_nil : whole n d ≠ [] := by
  have hlt := lt_length_digits (n := n) (d := d)
  intro h
  have hlength := congrArg List.length h
  rw [whole, List.length_take, List.length_nil] at hlength
  omega

theorem length_fraction : (fraction n d).length = d := by
  have hlt := lt_length_digits (n := n) (d := d)
  rw [fraction, List.length_drop]
  omega

theorem isDigit_of_mem_whole (hc : c ∈ whole n d) : c.isDigit = true :=
  isDigit_of_mem_digits (List.mem_of_mem_take hc)

theorem isDigit_of_mem_fraction (hc : c ∈ fraction n d) : c.isDigit = true :=
  isDigit_of_mem_digits (List.mem_of_mem_drop hc)

theorem ofDigitChars_digits : Nat.ofDigitChars 10 (digits n d) 0 = n := by
  rw [digits, List.leftpad, Nat.ofDigitChars_append, Nat.ofDigitChars_replicate_zero, Nat.mul_zero,
    Nat.ofDigitChars_ten_toDigits]

theorem ne_comma_of_isDigit (hc : c.isDigit = true) : c ≠ ',' := by
  rintro rfl
  exact absurd hc (by decide)

/-- The commas are all that grouping adds. -/
theorem filter_groupFromLast : ∀ l : List Char, (groupFromLast l).filter (· ≠ ',') = l.filter (· ≠ ',')
  | a :: b :: c :: e :: l => by
    have ih := filter_groupFromLast (e :: l)
    simp only [groupFromLast, List.filter_cons] at ih ⊢
    simp only [ih, ne_eq, not_true_eq_false, decide_false, Bool.false_eq_true, if_false]
  | [] | [_] | [_, _] | [_, _, _] => rfl

theorem filter_group (hl : ∀ c ∈ l, c.isDigit = true) : (group l).filter (· ≠ ',') = l := by
  rw [group, List.filter_reverse, filter_groupFromLast, List.filter_reverse, List.reverse_reverse]
  exact List.filter_eq_self.mpr fun c hc => by simpa using ne_comma_of_isDigit (hl c hc)

end Digits

section Reading

variable {l m : List Char} {n d : ℕ} {q : ℚ}

theorem mem_pointed {c : Char} (hc : c ∈ l) : c ∈ pointed l := by
  cases l with
  | nil => exact hc
  | cons b l => exact List.mem_cons_of_mem _ hc

theorem mem_of_mem_pointed {c : Char} (hc : c ∈ pointed l) : c = '.' ∨ c ∈ l := by
  cases l with
  | nil => exact Or.inr hc
  | cons b l => exact List.mem_cons.mp hc

theorem filter_pointed (hl : ∀ c ∈ l, c.isDigit = true) : (pointed l).filter (· ≠ ',') = pointed l := by
  cases l with
  | nil => rfl
  | cons c l =>
    refine List.filter_eq_self.mpr fun b hb => ?_
    obtain rfl | hb := List.mem_cons.mp hb
    · rfl
    · simpa using ne_comma_of_isDigit (hl b hb)

theorem ungrouped_unsigned (q : ℚ) (d : ℕ) (grouping : Bool) :
    ungrouped (unsigned q d grouping) = unsigned q d false := by
  have hwhole : (whole (units q d) d).filter (· ≠ ',') = whole (units q d) d :=
    List.filter_eq_self.mpr fun c hc => by simpa using ne_comma_of_isDigit (isDigit_of_mem_whole hc)
  rw [ungrouped, unsigned, unsigned, List.filter_append, filter_pointed fun c hc => isDigit_of_mem_fraction hc]
  cases grouping with
  | false => simp only [Bool.false_eq_true, if_false, hwhole]
  | true => simp only [Bool.false_eq_true, if_false, if_true, filter_group fun c hc => isDigit_of_mem_whole hc]

theorem ungrouped_fixed (q : ℚ) (d : ℕ) (grouping : Bool) : ungrouped (fixed q d grouping) = fixed q d false := by
  have hunsigned := ungrouped_unsigned q d grouping
  unfold fixed
  split_ifs with hneg
  · rw [ungrouped, List.filter_cons_of_pos (by decide)]
    exact congrArg _ hunsigned
  · exact hunsigned

theorem readUnsigned_pointed (hne : l ≠ []) (hl : ∀ c ∈ l, c.isDigit = true) (hm : ∀ c ∈ m, c.isDigit = true) :
    readUnsigned (l ++ pointed m) = some ((Nat.ofDigitChars 10 (l ++ m) 0 : ℚ) / 10 ^ m.length) := by
  have hpoint : Char.isDigit '.' = false := rfl
  cases m with
  | nil =>
    rw [pointed, List.append_nil, readUnsigned, List.takeWhile_eq_self_iff.mpr hl, List.dropWhile_eq_nil_iff.mpr hl]
    simp [hne]
  | cons c m =>
    rw [pointed, readUnsigned, List.takeWhile_append_of_pos hl, List.dropWhile_append_of_pos hl,
      List.takeWhile_cons_of_neg (by simp [hpoint]), List.dropWhile_cons_of_neg (by simp [hpoint]), List.append_nil]
    have hall : (c :: m).all Char.isDigit = true := List.all_eq_true.mpr hm
    simp only [hne, hall, ne_eq, not_false_eq_true, reduceCtorEq, and_self, if_true]

theorem readUnsigned_units (n d : ℕ) :
    readUnsigned (whole n d ++ pointed (fraction n d)) = some ((n : ℚ) / 10 ^ d) := by
  rw [readUnsigned_pointed whole_ne_nil (fun c hc => isDigit_of_mem_whole hc) fun c hc => isDigit_of_mem_fraction hc,
    whole_append_fraction, ofDigitChars_digits, length_fraction]

theorem mem_groupFromLast {c : Char} : ∀ {l : List Char}, c ∈ groupFromLast l → c = ',' ∨ c ∈ l
  | a :: b :: e :: f :: l, hc => by
    simp only [groupFromLast, List.mem_cons] at hc
    obtain rfl | rfl | rfl | rfl | hc := hc
    · simp
    · simp
    · simp
    · simp
    · obtain rfl | hc := mem_groupFromLast hc
      · exact Or.inl rfl
      · exact Or.inr (by simp [List.mem_cons.mp hc])
  | [], hc | [_], hc | [_, _], hc | [_, _, _], hc => Or.inr hc

theorem mem_group {c : Char} (hc : c ∈ group l) : c = ',' ∨ c ∈ l := by
  simpa using mem_groupFromLast (List.mem_reverse.mp hc)

/-- A numeral without a sign is of digits, a point and commas. -/
theorem mem_unsigned {c : Char} {grouping : Bool} (hc : c ∈ unsigned q d grouping) :
    c = ',' ∨ c ∈ digits (units q d) d ∨ c = '.' := by
  rw [← whole_append_fraction, List.mem_append]
  obtain hc | hc := List.mem_append.mp hc
  · split_ifs at hc with hgrouping
    · obtain rfl | hc := mem_group hc
      · exact Or.inl rfl
      · exact Or.inr (Or.inl (Or.inl hc))
    · exact Or.inr (Or.inl (Or.inl hc))
  · obtain rfl | hc := mem_of_mem_pointed hc
    · exact Or.inr (Or.inr rfl)
    · exact Or.inr (Or.inl (Or.inr hc))

theorem not_minus_mem_unsigned {grouping : Bool} : '-' ∉ unsigned q d grouping := by
  intro hc
  obtain hc | hc | hc := mem_unsigned hc
  · exact absurd hc (by decide)
  · exact absurd (isDigit_of_mem_digits hc) (by decide)
  · exact absurd hc (by decide)

theorem unsigned_ne_nil {grouping : Bool} : unsigned q d grouping ≠ [] := by
  intro hnil
  have hwhole := (ungrouped_unsigned q d grouping).symm
  rw [hnil] at hwhole
  exact whole_ne_nil (List.append_eq_nil_iff.mp hwhole).1

theorem readChars_unsigned (q : ℚ) (d : ℕ) : readChars (unsigned q d false) = some ((units q d : ℚ) / 10 ^ d) := by
  rw [← readUnsigned_units]
  unfold readChars
  split
  · rename_i l hl
    exact absurd (hl ▸ List.mem_cons_self) (not_minus_mem_unsigned (q := q) (d := d))
  · rfl

/-- What is written is read back as the rounded number. -/
theorem readChars_fixed (q : ℚ) (d : ℕ) : readChars (fixed q d false) = some (rounded q d) := by
  have hread : readUnsigned (unsigned q d false) = some ((units q d : ℚ) / 10 ^ d) := readUnsigned_units (units q d) d
  unfold fixed rounded
  split_ifs with hneg
  · rw [readChars, hread, Option.map_some]
  · exact readChars_unsigned q d

theorem places_append (hl : ∀ c ∈ l, c ≠ '.') : places (l ++ pointed m) = m.length := by
  rw [places, List.dropWhile_append_of_pos fun c hc => by simpa using hl c hc]
  cases m <;> simp [pointed]

theorem places_unsigned (q : ℚ) (d : ℕ) (grouping : Bool) : places (unsigned q d grouping) = d := by
  have hdigit : ∀ c ∈ whole (units q d) d, c ≠ '.' := by
    rintro c hc rfl
    exact absurd (isDigit_of_mem_whole hc) (by decide)
  rw [unsigned, places_append, length_fraction]
  intro c hc
  split_ifs at hc with hgrouping
  · obtain rfl | hc := mem_group hc
    · decide
    · exact hdigit c hc
  · exact hdigit c hc

theorem places_fixed (q : ℚ) (d : ℕ) (grouping : Bool) : places (fixed q d grouping) = d := by
  unfold fixed
  split_ifs
  · rw [places, List.dropWhile_cons_of_pos (by decide)]
    exact places_unsigned q d grouping
  · exact places_unsigned q d grouping

theorem digits_zero {c : Char} (hc : c ∈ digits 0 d) : c = '0' := by
  obtain hc | hc := List.mem_append.mp hc
  · exact (List.mem_replicate.mp hc).2
  · exact List.mem_singleton.mp hc

theorem eq_zero_of_digits (hzero : ∀ c ∈ digits n d, c = '0') : n = 0 := by
  have hvalue := ofDigitChars_digits (n := n) (d := d)
  rw [List.eq_replicate_of_mem hzero, Nat.ofDigitChars_replicate_zero, Nat.mul_zero] at hvalue
  exact hvalue.symm

/-- A numeral has no digit but zero just if its number rounds to zero. -/
theorem units_eq_zero_iff (grouping : Bool) :
    units q d = 0 ↔ ∀ c ∈ unsigned q d grouping, c ∈ ['0', '.', ','] := by
  constructor
  · intro hunits c hc
    obtain rfl | hc | rfl := mem_unsigned hc
    · decide
    · rw [hunits] at hc
      rw [digits_zero hc]
      decide
    · decide
  · intro hzero
    refine eq_zero_of_digits (d := d) fun c hc => ?_
    have hdigit := isDigit_of_mem_digits hc
    have hmem : c ∈ ungrouped (unsigned q d grouping) := by
      rw [ungrouped_unsigned]
      rw [← whole_append_fraction] at hc
      obtain hc | hc := List.mem_append.mp hc
      · exact List.mem_append_left _ hc
      · exact List.mem_append_right _ (mem_pointed hc)
    have hform := hzero c (List.mem_filter.mp hmem).1
    simp only [List.mem_cons, List.not_mem_nil, or_false] at hform
    obtain rfl | rfl | rfl := hform
    · rfl
    · exact absurd hdigit (by decide)
    · exact absurd hdigit (by decide)

end Reading

end DTwin.Decimal
