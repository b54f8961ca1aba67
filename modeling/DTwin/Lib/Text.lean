import Mathlib.Algebra.GroupWithZero.Nat
import Mathlib.Data.Int.Notation
import Mathlib.Data.List.Basic
import Mathlib.Data.List.TakeWhile
import Mathlib.Tactic.Common

/-!
# DTwin.Lib.Text — texts as the language has them, and keys that are put together from parts

The length of a text, its white space and its hexadecimal digits; printed numbers, and texts joined with a separator:
when a joined text tells its parts.
-/

namespace DTwin.Text

/-- `String.prototype.length`: UTF-16 code units. -/
def utf16Length (s : String) : ℕ := (s.toList.map fun c => if c.toNat < 0x10000 then 1 else 2).sum

/-- White space and line terminators, which `trim` takes away. -/
def isBlank (c : Char) : Bool :=
  [0x9, 0xa, 0xb, 0xc, 0xd, 0x20, 0xa0, 0x1680, 0x2028, 0x2029, 0x202f, 0x205f, 0x3000, 0xfeff].contains c.toNat ||
    (0x2000 ≤ c.toNat && c.toNat ≤ 0x200a)

def trim (s : List Char) : List Char := ((s.dropWhile isBlank).reverse.dropWhile isBlank).reverse

def isHexDigit (c : Char) : Bool := c.isDigit || ('a' ≤ c && c ≤ 'f') || ('A' ≤ c && c ≤ 'F')

/-! ## Keys -/

theorem toString_injective {m n : ℕ} (h : toString m = toString n) : m = n := by
  have hdigits : Nat.toDigits 10 m = Nat.toDigits 10 n := by
    have hlist : (Nat.repr m).toList = (Nat.repr n).toList := congrArg String.toList h
    simpa using hlist
  rw [← Nat.ofDigitChars_toDigits (b := 10) (n := m) (by decide) (by decide), hdigits,
    Nat.ofDigitChars_toDigits (by decide) (by decide)]

theorem isDigit_of_mem_toString {n : ℕ} {c : Char} (hc : c ∈ (toString n).toList) : c.isDigit = true := by
  have hdigits : c ∈ Nat.toDigits 10 n := by
    have hlist : c ∈ (Nat.repr n).toList := hc
    simpa using hlist
  exact Nat.isDigit_of_mem_toDigits (by decide) (by decide) hdigits

theorem toList_toString_negSucc (n : ℕ) : (toString (Int.negSucc n)).toList = '-' :: (toString (n + 1)).toList := by
  show ("-" ++ toString (n + 1)).toList = _
  rw [String.toList_append]
  rfl

theorem mem_toString_int {i : ℤ} {c : Char} (hc : c ∈ (toString i).toList) : c = '-' ∨ c.isDigit = true := by
  cases i with
  | ofNat n => exact Or.inr (isDigit_of_mem_toString hc)
  | negSucc n =>
    rw [toList_toString_negSucc] at hc
    exact (List.mem_cons.mp hc).imp_right isDigit_of_mem_toString

theorem minus_not_mem (n : ℕ) : '-' ∉ (toString n).toList := by
  intro hmem
  have hdigit := isDigit_of_mem_toString hmem
  exact absurd hdigit (by decide)

theorem toString_int_injective {i j : ℤ} (h : toString i = toString j) : i = j := by
  have hlist := congrArg String.toList h
  cases i with
  | ofNat m =>
    cases j with
    | ofNat n => rw [toString_injective h]
    | negSucc n =>
      rw [toList_toString_negSucc] at hlist
      exact absurd (hlist ▸ List.mem_cons_self : '-' ∈ (toString m).toList) (minus_not_mem m)
  | negSucc m =>
    cases j with
    | ofNat n =>
      rw [toList_toString_negSucc] at hlist
      exact absurd (hlist ▸ List.mem_cons_self : '-' ∈ (toString n).toList) (minus_not_mem n)
    | negSucc n =>
      rw [toList_toString_negSucc, toList_toString_negSucc] at hlist
      have hsucc := toString_injective (String.ext (List.cons.inj hlist).2)
      rw [Nat.succ.inj hsucc]

variable {α : Type*} {c : α} {p q x y : List α}

/-- A separator that is in neither of the first parts tells where they end. -/
theorem append_separator (hp : c ∉ p) (hq : c ∉ q) (h : p ++ c :: x = q ++ c :: y) : p = q ∧ x = y := by
  induction p generalizing q with
  | nil =>
    cases q with
    | nil => exact ⟨rfl, (List.cons.inj h).2⟩
    | cons d q => exact absurd ((List.cons.inj h).1 ▸ List.mem_cons_self) hq
  | cons d p ih =>
    cases q with
    | nil => exact absurd ((List.cons.inj h).1 ▸ List.mem_cons_self) hp
    | cons e q =>
      obtain ⟨hde, hrest⟩ := List.cons.inj h
      obtain ⟨hpq, hxy⟩ :=
        ih (fun hm => hp (List.mem_cons_of_mem _ hm)) (fun hm => hq (List.mem_cons_of_mem _ hm)) hrest
      exact ⟨by rw [hde, hpq], hxy⟩

/-- A separator that is in neither of the last parts tells where they begin. -/
theorem append_separator_last (hx : c ∉ x) (hy : c ∉ y) (h : p ++ c :: x = q ++ c :: y) : p = q ∧ x = y := by
  have hreverse : x.reverse ++ c :: p.reverse = y.reverse ++ c :: q.reverse := by
    have hlist := congrArg List.reverse h
    simpa using hlist
  obtain ⟨hxy, hpq⟩ :=
    append_separator (fun hm => hx (List.mem_reverse.mp hm)) (fun hm => hy (List.mem_reverse.mp hm)) hreverse
  exact ⟨List.reverse_injective hpq, List.reverse_injective hxy⟩

/-- What all of a front satisfies, and the head of the rest does not, tells where the front ends. -/
theorem takeWhile_append {f : α → Bool} (hp : ∀ a ∈ p, f a = true) (hx : ∀ a ∈ x.head?, f a = false) :
    (p ++ x).takeWhile f = p ∧ (p ++ x).dropWhile f = x := by
  rw [List.takeWhile_append_of_pos hp, List.dropWhile_append_of_pos hp]
  cases x with
  | nil => exact ⟨by rw [List.takeWhile_nil, List.append_nil], rfl⟩
  | cons a x =>
    have ha : ¬ f a = true := by simp [hx a rfl]
    rw [List.takeWhile_cons_of_neg ha, List.dropWhile_cons_of_neg ha, List.append_nil]
    exact ⟨rfl, rfl⟩

end DTwin.Text
