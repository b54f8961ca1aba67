import DTwin.Copilot.Evidence
import DTwin.Lib.Decimal

/-!
# DTwin.Copilot.Units — units, read off the name, and numbers as the operator reads them

`apps/web/lib/copilot/units.ts`.  `unitFrom_eq_some` says what a key that names a unit looks like; `readChars_numeral`
that what is formatted is read back as the number rounded to its places, however it is grouped, so that the verifier
and the renderer show the same number (`displayedValue_ok`, `formatQuantity_shows`).
-/

namespace DTwin.Copilot

open Decimal

/-- Longest match first. -/
def UNIT_SUFFIXES : List (String × UnitId) :=
  [("_k_per_h", .kPerH), ("_zone_h", .zoneH), ("_kwh", .kwh), ("_kw", .kw), ("_ppm", .ppm), ("_cmh", .cmh),
    ("_pct", .pct), ("_m2", .m2), ("_m3", .m3), ("_min", .min), ("_count", .count), ("_kg", .kg), ("_c", .c),
    ("_k", .k), ("_h", .h), ("_s", .s)]

def UNIT_SYMBOL : UnitId → String
  | .kPerH => "K/h"
  | .zoneH => "zone-hours"
  | .kwh => "kWh"
  | .kw => "kW"
  | .ppm => "ppm"
  | .cmh => "m³/h"
  | .pct => "%"
  | .m2 => "m²"
  | .m3 => "m³"
  | .min => "min"
  | .count => ""
  | .kg => "kg"
  | .c => "°C"
  | .k => "K"
  | .h => "h"
  | .s => "s"

/-- What is left of a key that is longer than the suffix it ends in. -/
def stemOf (key suffix : List Char) : Option (List Char) :=
  if suffix.length < key.length ∧ suffix <:+ key then some (key.take (key.length - suffix.length)) else none

/-- A unit per another that is not in the table. -/
def endsInPer (stem : List Char) : Bool := "_per".toList <:+ stem ∨ stem = "per".toList

/-- The loop of `unitOfKey` over the suffixes that are left. -/
def unitFrom (key : List Char) : List (String × UnitId) → Option UnitId
  | [] => none
  | (suffix, unit) :: suffixes =>
    match stemOf key suffix.toList with
    | some stem => if endsInPer stem then none else some unit
    | none => unitFrom key suffixes

def unitOfKey (key : String) : Option UnitId := unitFrom key.toList UNIT_SUFFIXES

/-- Why a number is not formatted. -/
inductive RangeError
  | decimals (decimals : Num)
  | notFinite (value : Num)
deriving DecidableEq

/-- The number of places, if it is one. -/
def assertDecimals (decimals : Num) : Except RangeError ℕ :=
  match decimals with
  | .finite q => if q.den = 1 ∧ 0 ≤ q.num ∧ q.num ≤ 3 then .ok q.num.toNat else .error (.decimals decimals)
  | .nonFinite => .error (.decimals decimals)

/-- `/^-[0.,]+$/` -/
def isNegativeZero : List Char → Bool
  | '-' :: l => l ≠ [] && l.all (['0', '.', ','].contains ·)
  | _ => false

/-- A number in `en-US`, fixed decimals; negative zero is shown as zero. -/
def numeral (q : ℚ) (d : ℕ) (grouping : Bool) : List Char :=
  if isNegativeZero (fixed q d grouping) then (fixed q d grouping).drop 1 else fixed q d grouping

def formatNumber (value decimals : Num) (grouping : Bool) : Except RangeError String := do
  let d ← assertDecimals decimals
  match value with
  | .finite q => .ok (String.ofList (numeral q d grouping))
  | .nonFinite => .error (.notFinite value)

/-- `Number(s)`, of a decimal literal. -/
def number (s : String) : Num :=
  match readChars s.toList with
  | some q => .finite q
  | none => .nonFinite

def displayedValue (value decimals : Num) : Except RangeError Num := (formatNumber value decimals false).map number

/-- What stands after a figure. -/
def unitText (unit : UnitId) : String :=
  if UNIT_SYMBOL unit = "" then "" else if unit = .pct then UNIT_SYMBOL unit else " " ++ UNIT_SYMBOL unit

def formatQuantity (value decimals : Num) (unit : UnitId) : Except RangeError String :=
  (formatNumber value decimals true).map fun n => n ++ unitText unit

section Keys

variable {key suffix stem : List Char} {unit : UnitId}

theorem stemOf_eq_some : stemOf key suffix = some stem ↔ key = stem ++ suffix ∧ stem ≠ [] := by
  unfold stemOf
  constructor
  · intro h
    split_ifs at h with hends
    obtain ⟨hlt, stem', rfl⟩ := hends
    cases h
    rw [List.length_append, Nat.add_sub_cancel, List.take_left]
    refine ⟨rfl, ?_⟩
    rintro rfl
    simp at hlt
  · rintro ⟨rfl, hne⟩
    have hpos := List.length_pos_of_ne_nil hne
    rw [if_pos ⟨by rw [List.length_append]; omega, List.suffix_append _ _⟩, List.length_append, Nat.add_sub_cancel,
      List.take_left]

/-- **The unit of a key** is that of the first suffix of the table that the key is longer than and ends in. -/
theorem unitFrom_eq_some : ∀ {suffixes : List (String × UnitId)}, unitFrom key suffixes = some unit ↔
    ∃ before suffix after stem, suffixes = before ++ (suffix, unit) :: after ∧ key = stem ++ suffix.toList ∧ stem ≠ [] ∧
      endsInPer stem = false ∧ ∀ s ∈ before, stemOf key s.1.toList = none
  | [] => by simp [unitFrom]
  | (s, u) :: suffixes => by
    rw [unitFrom]
    cases hstem : stemOf key s.toList with
    | some stem =>
      obtain ⟨hkey, hne⟩ := stemOf_eq_some.mp hstem
      constructor
      · intro h
        cases hper : endsInPer stem with
        | true => simp [hper] at h
        | false =>
          obtain rfl : u = unit := by simpa [hper] using h
          exact ⟨[], s, suffixes, stem, rfl, hkey, hne, hper, by simp⟩
      · rintro ⟨before, suffix, after, stem', hsplit, hkey', hne', hper, hnone⟩
        cases before with
        | nil =>
          cases hsplit
          obtain rfl : stem = stem' := List.append_cancel_right (hkey.symm.trans hkey')
          simp [hper]
        | cons b before =>
          cases hsplit
          exact absurd (hstem.symm.trans (hnone _ List.mem_cons_self)) (by simp)
    | none =>
      rw [unitFrom_eq_some]
      constructor
      · rintro ⟨before, suffix, after, stem, rfl, hkey, hne, hper, hnone⟩
        exact ⟨(s, u) :: before, suffix, after, stem, rfl, hkey, hne, hper, List.forall_mem_cons.mpr ⟨hstem, hnone⟩⟩
      · rintro ⟨before, suffix, after, stem, hsplit, hkey, hne, hper, hnone⟩
        cases before with
        | nil =>
          cases hsplit
          exact absurd (hstem.symm.trans (stemOf_eq_some.mpr ⟨hkey, hne⟩)) (by simp)
        | cons b before =>
          cases hsplit
          exact ⟨before, suffix, after, stem, rfl, hkey, hne, hper, (List.forall_mem_cons.mp hnone).2⟩

end Keys

section Numbers

variable {q : ℚ} {d : ℕ} {grouping : Bool} {value decimals : Num} {unit : UnitId} {text : String}

theorem isNegativeZero_fixed : isNegativeZero (fixed q d grouping) = true ↔ q.num < 0 ∧ units q d = 0 := by
  rw [units_eq_zero_iff grouping]
  unfold fixed
  split_ifs with hneg
  · simp [isNegativeZero, hneg, unsigned_ne_nil]
  · have hminus : '-' ∉ unsigned q d grouping := not_minus_mem_unsigned
    cases hl : unsigned q d grouping with
    | nil => exact absurd hl unsigned_ne_nil
    | cons c l =>
      rw [hl] at hminus
      have hc : c ≠ '-' := fun h => hminus (h ▸ List.mem_cons_self)
      simp [isNegativeZero, hneg, hc]

theorem numeral_eq : numeral q d grouping =
    if q.num < 0 ∧ units q d = 0 then unsigned q d grouping else fixed q d grouping := by
  rw [numeral]
  by_cases hzero : q.num < 0 ∧ units q d = 0
  · rw [if_pos (isNegativeZero_fixed.mpr hzero), if_pos hzero, fixed, if_pos hzero.1, List.drop_one, List.tail_cons]
  · rw [if_neg (fun h => hzero (isNegativeZero_fixed.mp h)), if_neg hzero]

/-- Grouping adds nothing but commas. -/
theorem ungrouped_numeral (q : ℚ) (d : ℕ) (grouping : Bool) : ungrouped (numeral q d grouping) = numeral q d false := by
  rw [numeral_eq, numeral_eq]
  split_ifs
  · exact ungrouped_unsigned q d grouping
  · exact ungrouped_fixed q d grouping

theorem readChars_numeral (q : ℚ) (d : ℕ) : readChars (numeral q d false) = some (rounded q d) := by
  rw [numeral_eq]
  split_ifs with hzero
  · rw [readChars_unsigned, rounded, if_pos hzero.1, hzero.2]
    simp
  · exact readChars_fixed q d

theorem places_numeral (q : ℚ) (d : ℕ) (grouping : Bool) : places (numeral q d grouping) = d := by
  rw [numeral_eq]
  split_ifs
  · exact places_unsigned q d grouping
  · exact places_fixed q d grouping

theorem formatNumber_ok : formatNumber value decimals grouping = .ok text ↔
    ∃ q d, value = .finite q ∧ assertDecimals decimals = .ok d ∧ text = String.ofList (numeral q d grouping) := by
  unfold formatNumber
  cases hd : assertDecimals decimals with
  | error e => simp [bind, Except.bind]
  | ok d =>
    cases value with
    | finite q => simp [bind, Except.bind, eq_comm]
    | nonFinite => simp [bind, Except.bind]

/-- The value the operator sees is the number rounded to its places. -/
theorem displayedValue_ok {shown : Num} : displayedValue value decimals = .ok shown ↔
    ∃ q d, value = .finite q ∧ assertDecimals decimals = .ok d ∧ shown = .finite (rounded q d) := by
  have hnumber : ∀ q d, number (String.ofList (numeral q d false)) = .finite (rounded q d) := fun q d => by
    rw [number, String.toList_ofList, readChars_numeral]
  unfold displayedValue
  constructor
  · intro h
    cases htext : formatNumber value decimals false with
    | error e => simp [htext, Except.map] at h
    | ok text =>
      obtain ⟨q, d, rfl, hd, rfl⟩ := formatNumber_ok.mp htext
      rw [htext, Except.map, hnumber] at h
      exact ⟨q, d, rfl, hd, (Except.ok.inj h).symm⟩
  · rintro ⟨q, d, rfl, hd, rfl⟩
    rw [formatNumber_ok.mpr ⟨q, d, rfl, hd, rfl⟩, Except.map, hnumber]

/-- The text is a numeral of a number at some places, grouped or not, and its unit after it. -/
def Shows (text : String) (x : ℚ) (d : ℕ) (unit : UnitId) : Prop :=
  ∃ n, text = n ++ unitText unit ∧ readChars (ungrouped n.toList) = some x ∧ places n.toList = d

/-- **What is shown is the value that is checked.** -/
theorem formatQuantity_shows (htext : formatQuantity value decimals unit = .ok text) :
    ∃ x d, displayedValue value decimals = .ok (.finite x) ∧ assertDecimals decimals = .ok d ∧ Shows text x d unit := by
  unfold formatQuantity at htext
  cases hn : formatNumber value decimals true with
  | error e => simp [hn, Except.map] at htext
  | ok n =>
    obtain ⟨q, d, rfl, hd, rfl⟩ := formatNumber_ok.mp hn
    rw [hn, Except.map] at htext
    refine ⟨rounded q d, d, displayedValue_ok.mpr ⟨q, d, rfl, hd, rfl⟩, hd, _, (Except.ok.inj htext).symm, ?_, ?_⟩
    · rw [String.toList_ofList, ungrouped_numeral, readChars_numeral]
    · rw [String.toList_ofList, places_numeral]

end Numbers

end DTwin.Copilot
