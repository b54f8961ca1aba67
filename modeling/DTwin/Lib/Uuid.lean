import Mathlib.Data.List.Lex
import Mathlib.Order.Fin.Basic
import Mathlib.Tactic.Common

/-!
# DTwin.Lib.Uuid — uuids as bytes and as texts

A database compares uuids by their bytes, a program that has them as text by the characters.  In the canonical text the
hyphens stand at the same places, and the digits 0 to 9 come before the letters, so the two orders are one
(`text_lt_iff`).
-/

namespace DTwin.Canonical

/-- Thirty-two hexadecimal digits. -/
structure Uuid where
  digits : List (Fin 16)
  length : digits.length = 32
deriving DecidableEq

namespace Uuid

theorem digits_injective : Function.Injective digits := by
  rintro ⟨ds, hds⟩ ⟨es, hes⟩ h
  cases h
  rfl

/-- The order of the bytes. -/
instance : LinearOrder Uuid := LinearOrder.lift' digits digits_injective

def hexDigits : List Char := ['0', '1', '2', '3', '4', '5', '6', '7', '8', '9', 'a', 'b', 'c', 'd', 'e', 'f']

def hexDigit (d : Fin 16) : Char := hexDigits.get ⟨d, d.isLt⟩

/-- Digits from the `i`-th on, with the hyphens. -/
def hyphened : ℕ → List (Fin 16) → List Char
  | _, [] => []
  | i, d :: ds =>
    if i = 8 ∨ i = 12 ∨ i = 16 ∨ i = 20 then '-' :: hexDigit d :: hyphened (i + 1) ds
    else hexDigit d :: hyphened (i + 1) ds

/-- The canonical text. -/
def text (u : Uuid) : List Char := hyphened 0 u.digits

theorem hexDigit_lt_iff {d e : Fin 16} : hexDigit d < hexDigit e ↔ d < e := by
  revert d e
  decide

theorem hexDigit_injective : Function.Injective hexDigit := by
  unfold Function.Injective
  decide

theorem hyphened_lt_iff : ∀ {ds es : List (Fin 16)} (i : ℕ), ds.length = es.length →
    (hyphened i ds < hyphened i es ↔ ds < es)
  | [], [], _, _ => by simp [hyphened]
  | d :: ds, e :: es, i, h => by
    have hrest := hyphened_lt_iff (i + 1) (Nat.succ.inj h)
    unfold hyphened
    split_ifs with hi
    · rw [List.cons_lt_cons_iff, List.cons_lt_cons_iff, List.cons_lt_cons_iff, hexDigit_lt_iff, hrest]
      simp [hexDigit_injective.eq_iff]
    · rw [List.cons_lt_cons_iff, List.cons_lt_cons_iff, hexDigit_lt_iff, hrest, hexDigit_injective.eq_iff]

/-- The texts stand in the order of the bytes. -/
theorem text_lt_iff {u v : Uuid} : u.text < v.text ↔ u < v :=
  hyphened_lt_iff 0 (u.length.trans v.length.symm)

theorem text_injective : Function.Injective text := by
  intro u v h
  rcases lt_trichotomy u v with hlt | heq | hgt
  · have hself := text_lt_iff.mpr hlt
    rw [h] at hself
    exact absurd (text_lt_iff.mp hself) (lt_irrefl v)
  · exact heq
  · have hself := text_lt_iff.mpr hgt
    rw [h] at hself
    exact absurd (text_lt_iff.mp hself) (lt_irrefl v)

theorem mem_hyphened {c : Char} : ∀ {ds : List (Fin 16)} {i : ℕ}, c ∈ hyphened i ds → c = '-' ∨ ∃ d, c = hexDigit d
  | [], _, h => by cases h
  | d :: ds, i, h => by
    unfold hyphened at h
    split_ifs at h
    · rcases List.mem_cons.mp h with rfl | hrest
      · exact Or.inl rfl
      · rcases List.mem_cons.mp hrest with rfl | hrest
        · exact Or.inr ⟨d, rfl⟩
        · exact mem_hyphened hrest
    · rcases List.mem_cons.mp h with rfl | hrest
      · exact Or.inr ⟨d, rfl⟩
      · exact mem_hyphened hrest

theorem colon_not_mem_text (u : Uuid) : ':' ∉ u.text := by
  intro hmem
  rcases mem_hyphened hmem with hminus | ⟨d, hd⟩
  · exact absurd hminus (by decide)
  · have hdigit : ∀ d : Fin 16, ':' ≠ hexDigit d := by decide
    exact hdigit d hd

end Uuid

end DTwin.Canonical
