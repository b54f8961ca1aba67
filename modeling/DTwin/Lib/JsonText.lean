import DTwin.Lib.Double
import DTwin.Lib.Utf16

/-!
# DTwin.Lib.JsonText — JSON as text

A `Json` tree has finite doubles for numbers and code units in its strings.  `text` writes it without white space, with
the strings as `JSON.stringify` quotes them.  A text tells its tree, and where it ends (`text_cancel`), since no tree
begins like another kind of tree and none goes on with what may follow a tree.

`Reordered` is equality up to the order in which objects have their keys, and `sorted` puts the keys in order at every
depth: where no object has a key twice, the one decides the other (`sorted_eq_iff`).
-/

namespace DTwin.JsonText

open Utf16

def unit (c : Char) : UInt16 := c.toNat.toUInt16

def ascii (l : List Char) : Utf16 := l.map unit

/-! ## Strings -/

/-- The letter behind the backslash, for a unit that has one. -/
def letter (u : UInt16) : Option UInt16 :=
  if u = 8 then some (unit 'b')
  else if u = 9 then some (unit 't')
  else if u = 10 then some (unit 'n')
  else if u = 12 then some (unit 'f')
  else if u = 13 then some (unit 'r')
  else if u = unit '"' ∨ u = unit '\\' then some u
  else none

/-- The unit that a letter behind a backslash stands for. -/
def ofLetter (c : UInt16) : UInt16 :=
  if c = unit 'b' then 8
  else if c = unit 't' then 9
  else if c = unit 'n' then 10
  else if c = unit 'f' then 12
  else if c = unit 'r' then 13
  else c

def hexDigit (d : ℕ) : UInt16 := if d < 10 then (0x30 + d).toUInt16 else (0x57 + d).toUInt16

def hexValue (u : UInt16) : ℕ := if u.toNat < 0x61 then u.toNat - 0x30 else u.toNat - 0x57

def hex (u : UInt16) : Utf16 :=
  [hexDigit (u.toNat / 4096), hexDigit (u.toNat / 256 % 16), hexDigit (u.toNat / 16 % 16), hexDigit (u.toNat % 16)]

def isLead (u : UInt16) : Bool := 0xd800 ≤ u && u ≤ 0xdbff

def isTrail (u : UInt16) : Bool := 0xdc00 ≤ u && u ≤ 0xdfff

def escapeUnit (u : UInt16) : Utf16 :=
  match letter u with
  | some c => [unit '\\', c]
  | none => if u < 0x20 ∨ isLead u ∨ isTrail u then unit '\\' :: unit 'u' :: hex u else [u]

/-- The two halves of a pair stand as they are, a half by itself is escaped. -/
def escape : Utf16 → Utf16
  | [] => []
  | [u] => escapeUnit u
  | u :: t :: s => if isLead u && isTrail t then u :: t :: escape s else escapeUnit u ++ escape (t :: s)

/-- `JSON.stringify` of a string. -/
def quote (s : Utf16) : Utf16 := unit '"' :: (escape s ++ [unit '"'])

/-- The string up to its closing quote, and what follows. -/
def unquote : Utf16 → Utf16 × Utf16
  | [] => ([], [])
  | u :: r =>
    if u = unit '"' then ([], r)
    else if u = unit '\\' then
      match r with
      | [] => ([], [])
      | c :: r =>
        if c = unit 'u' then
          match r with
          | a :: b :: c :: d :: r =>
            (((hexValue a * 4096 + hexValue b * 256 + hexValue c * 16 + hexValue d).toUInt16 :: (unquote r).1),
              (unquote r).2)
          | _ => ([], [])
        else (ofLetter c :: (unquote r).1, (unquote r).2)
    else (u :: (unquote r).1, (unquote r).2)

theorem unquote_close (r : Utf16) : unquote (unit '"' :: r) = ([], r) := by
  rw [unquote.eq_def]
  exact if_pos rfl

theorem unquote_plain {u : UInt16} (hquote : u ≠ unit '"') (hslash : u ≠ unit '\\') (r : Utf16) :
    unquote (u :: r) = (u :: (unquote r).1, (unquote r).2) := by
  rw [unquote.eq_def]
  show (if u = unit '"' then _ else if u = unit '\\' then _ else _) = _
  rw [if_neg hquote, if_neg hslash]

theorem unquote_letter {c : UInt16} (hc : c ≠ unit 'u') (r : Utf16) :
    unquote (unit '\\' :: c :: r) = (ofLetter c :: (unquote r).1, (unquote r).2) := by
  rw [unquote.eq_def]
  show (if unit '\\' = unit '"' then _ else if unit '\\' = unit '\\' then if c = unit 'u' then _ else _ else _) = _
  rw [if_neg (by decide), if_pos rfl, if_neg hc]

theorem unquote_hex (a b c d : UInt16) (r : Utf16) :
    unquote (unit '\\' :: unit 'u' :: a :: b :: c :: d :: r) =
      (((hexValue a * 4096 + hexValue b * 256 + hexValue c * 16 + hexValue d).toUInt16 :: (unquote r).1),
        (unquote r).2) := by
  rw [unquote.eq_def]
  rfl

theorem letter_some {u c : UInt16} (h : letter u = some c) : c ≠ unit 'u' ∧ ofLetter c = u := by
  unfold letter at h
  split_ifs at h with h₁ h₂ h₃ h₄ h₅ h₆
  · subst h₁
    exact Option.some.inj h ▸ ⟨by decide, rfl⟩
  · subst h₂
    exact Option.some.inj h ▸ ⟨by decide, rfl⟩
  · subst h₃
    exact Option.some.inj h ▸ ⟨by decide, rfl⟩
  · subst h₄
    exact Option.some.inj h ▸ ⟨by decide, rfl⟩
  · subst h₅
    exact Option.some.inj h ▸ ⟨by decide, rfl⟩
  · rw [← Option.some.inj h]
    rcases h₆ with rfl | rfl
    · exact ⟨by decide, rfl⟩
    · exact ⟨by decide, rfl⟩

theorem letter_none {u : UInt16} (h : letter u = none) : u ≠ unit '"' ∧ u ≠ unit '\\' := by
  constructor
  · rintro rfl
    exact absurd h (by decide)
  · rintro rfl
    exact absurd h (by decide)

theorem hexValue_hexDigit {d : ℕ} (hd : d < 16) : hexValue (hexDigit d) = d := by
  have hall : ∀ d : Fin 16, hexValue (hexDigit d) = d := by decide
  exact hall ⟨d, hd⟩

theorem hex_value (u : UInt16) :
    (hexValue (hexDigit (u.toNat / 4096)) * 4096 + hexValue (hexDigit (u.toNat / 256 % 16)) * 256 +
      hexValue (hexDigit (u.toNat / 16 % 16)) * 16 + hexValue (hexDigit (u.toNat % 16))).toUInt16 = u := by
  have hlt : u.toNat < 65536 := u.toNat_lt
  rw [hexValue_hexDigit (by omega), hexValue_hexDigit (by omega), hexValue_hexDigit (by omega),
    hexValue_hexDigit (by omega)]
  have hsum : u.toNat / 4096 * 4096 + u.toNat / 256 % 16 * 256 + u.toNat / 16 % 16 * 16 + u.toNat % 16 = u.toNat := by
    omega
  rw [hsum]
  exact UInt16.ofNat_toNat

/-- One unit is read back, whichever way it is written. -/
theorem unquote_escapeUnit (u : UInt16) (r : Utf16) :
    unquote (escapeUnit u ++ r) = (u :: (unquote r).1, (unquote r).2) := by
  unfold escapeUnit
  cases hletter : letter u with
  | some c =>
    obtain ⟨hne, hof⟩ := letter_some hletter
    show unquote (unit '\\' :: c :: r) = _
    rw [unquote_letter hne, hof]
  | none =>
    obtain ⟨hquote, hslash⟩ := letter_none hletter
    show unquote ((if u < 0x20 ∨ isLead u ∨ isTrail u then unit '\\' :: unit 'u' :: hex u else [u]) ++ r) = _
    split_ifs with hhex
    · show unquote (unit '\\' :: unit 'u' :: _ :: _ :: _ :: _ :: r) = _
      rw [unquote_hex, hex_value]
    · exact unquote_plain hquote hslash r

theorem unquote_surrogate {u : UInt16} (hu : isLead u = true ∨ isTrail u = true) (r : Utf16) :
    unquote (u :: r) = (u :: (unquote r).1, (unquote r).2) := by
  have hquote : u ≠ unit '"' := by
    rintro rfl
    exact absurd hu (by decide)
  have hslash : u ≠ unit '\\' := by
    rintro rfl
    exact absurd hu (by decide)
  exact unquote_plain hquote hslash r

theorem unquote_escape (s r : Utf16) : unquote (escape s ++ unit '"' :: r) = (s, r) := by
  induction s using escape.induct with
  | case1 => rw [escape, List.nil_append, unquote_close]
  | case2 u => rw [escape, unquote_escapeUnit, unquote_close]
  | case3 u t s hpair ih =>
    obtain ⟨hlead, htrail⟩ := Bool.and_eq_true_iff.mp hpair
    rw [escape, if_pos hpair, List.cons_append, List.cons_append, unquote_surrogate (Or.inl hlead),
      unquote_surrogate (Or.inr htrail), ih]
  | case4 u t s hpair ih => rw [escape, if_neg hpair, List.append_assoc, unquote_escapeUnit, ih]

/-- A quoted string tells where it ends. -/
theorem quote_cancel {s t r r' : Utf16} (h : quote s ++ r = quote t ++ r') : s = t ∧ r = r' := by
  have hescape : escape s ++ unit '"' :: r = escape t ++ unit '"' :: r' := by
    have htail : escape s ++ [unit '"'] ++ r = escape t ++ [unit '"'] ++ r' := (List.cons.inj h).2
    rwa [List.append_assoc, List.append_assoc] at htail
  have hread := congrArg unquote hescape
  rw [unquote_escape, unquote_escape] at hread
  exact Prod.mk.inj hread

/-! ## Numbers -/

def char (u : UInt16) : Char := Char.ofNat u.toNat

theorem char_unit {c : Char} (hc : c.toNat < 65536) : char (unit c) = c := by
  have hto : (unit c).toNat = c.toNat := UInt16.toNat_ofNat_of_lt' hc
  rw [char, hto, Char.ofNat_toNat]

theorem lt_of_isNumeric {c : Char} (hc : Double.isNumeric c = true) : c.toNat < 65536 := by
  rcases Bool.or_eq_true_iff.mp hc with hdigit | hsign
  · exact Nat.lt_of_le_of_lt (Char.isDigit_iff_toNat.mp hdigit).2 (by decide)
  · have hmem := List.contains_iff_mem.mp hsign
    simp only [List.mem_cons, List.not_mem_nil, or_false] at hmem
    rcases hmem with rfl | rfl | rfl | rfl
    · decide
    · decide
    · decide
    · decide

def isNumericUnit (u : UInt16) : Bool := Double.isNumeric (char u)

theorem isNumericUnit_unit {c : Char} (hc : Double.isNumeric c = true) : isNumericUnit (unit c) = true := by
  rw [isNumericUnit, char_unit (lt_of_isNumeric hc), hc]

theorem ascii_injective {l m : List Char} (hl : ∀ c ∈ l, c.toNat < 65536) (hm : ∀ c ∈ m, c.toNat < 65536)
    (h : ascii l = ascii m) : l = m := by
  have hback : ∀ {l : List Char}, (∀ c ∈ l, c.toNat < 65536) → (ascii l).map char = l := by
    intro l hl
    rw [ascii, List.map_map]
    exact (List.map_congr_left fun c hc => char_unit (hl c hc)).trans (List.map_id l)
  rw [← hback hl, h, hback hm]

/-- What may stand behind a tree. -/
def Ends (r : Utf16) : Prop := ∀ u ∈ r.head?, u = unit ',' ∨ u = unit ']' ∨ u = unit '}'

/-- A printed number tells where it ends. -/
theorem number_cancel {x y : Double} {r r' : Utf16} (hr : Ends r) (hr' : Ends r')
    (h : ascii x.print ++ r = ascii y.print ++ r') : x = y ∧ r = r' := by
  have hnumeric : ∀ (x : Double), ∀ u ∈ ascii x.print, isNumericUnit u = true := by
    intro x u hu
    obtain ⟨c, hc, rfl⟩ := List.mem_map.mp hu
    exact isNumericUnit_unit (x.exists_print.1 c hc)
  have hstop : ∀ {r : Utf16}, Ends r → ∀ u ∈ r.head?, isNumericUnit u = false := by
    intro r hr u hu
    rcases hr u hu with rfl | rfl | rfl
    · decide
    · decide
    · decide
  obtain ⟨htake, hdrop⟩ := Text.takeWhile_append (hnumeric x) (hstop hr)
  obtain ⟨htake', hdrop'⟩ := Text.takeWhile_append (hnumeric y) (hstop hr')
  rw [h] at htake hdrop
  have hprint : ascii x.print = ascii y.print := htake.symm.trans htake'
  exact ⟨Double.print_injective (ascii_injective (fun c hc => lt_of_isNumeric (x.exists_print.1 c hc))
    (fun c hc => lt_of_isNumeric (y.exists_print.1 c hc)) hprint), hdrop.symm.trans hdrop'⟩

/-! ## Trees -/

inductive Tree
  | null
  | bool (b : Bool)
  | number (x : Double)
  | string (s : Utf16)
  | array (items : List Tree)
  | object (fields : List (Utf16 × Tree))

def join (texts : List Utf16) : Utf16 := [unit ','].intercalate texts

mutual

def text : Tree → Utf16
  | .null => ascii ['n', 'u', 'l', 'l']
  | .bool true => ascii ['t', 'r', 'u', 'e']
  | .bool false => ascii ['f', 'a', 'l', 's', 'e']
  | .number x => ascii x.print
  | .string s => quote s
  | .array items => unit '[' :: (join (textItems items) ++ [unit ']'])
  | .object fields => unit '{' :: (join (textFields fields) ++ [unit '}'])

def textItems : List Tree → List Utf16
  | [] => []
  | v :: items => text v :: textItems items

def textFields : List (Utf16 × Tree) → List Utf16
  | [] => []
  | (k, v) :: fields => (quote k ++ unit ':' :: text v) :: textFields fields

end

/-! ## The first unit -/

inductive Kind
  | null
  | bool
  | number
  | string
  | array
  | object
  | other
deriving DecidableEq

def Tree.kind : Tree → Kind
  | .null => .null
  | .bool _ => .bool
  | .number _ => .number
  | .string _ => .string
  | .array _ => .array
  | .object _ => .object

/-- The kind of the trees that begin with a unit. -/
def kindOf (u : UInt16) : Kind :=
  if isNumericUnit u then .number
  else if u = unit 'n' then .null
  else if u = unit 't' ∨ u = unit 'f' then .bool
  else if u = unit '"' then .string
  else if u = unit '[' then .array
  else if u = unit '{' then .object
  else .other

theorem exists_text (v : Tree) : ∃ u s, text v = u :: s ∧ kindOf u = v.kind := by
  cases v with
  | null => exact ⟨_, _, rfl, by decide⟩
  | bool b =>
    cases b with
    | true => exact ⟨_, _, rfl, by decide⟩
    | false => exact ⟨_, _, rfl, by decide⟩
  | number x =>
    obtain ⟨hall, a, l, hprint, -⟩ := x.exists_print
    refine ⟨unit a, ascii l, ?_, ?_⟩
    · rw [text, hprint, ascii, ascii, List.map_cons]
    · exact if_pos (isNumericUnit_unit (hall a (hprint ▸ List.mem_cons_self)))
  | string s => exact ⟨_, _, rfl, (by decide : kindOf (unit '"') = .string)⟩
  | array items => exact ⟨_, _, rfl, (by decide : kindOf (unit '[') = .array)⟩
  | object fields => exact ⟨_, _, rfl, (by decide : kindOf (unit '{') = .object)⟩

theorem kind_ne_other (v : Tree) : v.kind ≠ .other := by
  cases v with
  | _ => exact Kind.noConfusion

/-- Trees whose texts go on to the same text are of one kind. -/
theorem kind_eq {v w : Tree} {r r' : Utf16} (h : text v ++ r = text w ++ r') : v.kind = w.kind := by
  obtain ⟨u, s, hv, hu⟩ := exists_text v
  obtain ⟨u', s', hw, hu'⟩ := exists_text w
  rw [hv, hw] at h
  rw [← hu, ← hu', (List.cons.inj h).1]

/-- No tree begins with the end of an array. -/
theorem text_ne_close {v : Tree} {r r' : Utf16} : text v ++ r ≠ unit ']' :: r' := by
  intro h
  obtain ⟨u, s, hv, hu⟩ := exists_text v
  rw [hv] at h
  have hother : kindOf (unit ']') = .other := by decide
  exact kind_ne_other v (by rw [← hu, (List.cons.inj h).1, hother])

/-! ## Where a text ends -/

/-- The items behind the first. -/
def more : List Utf16 → Utf16
  | [] => []
  | t :: texts => unit ',' :: join (t :: texts)

theorem join_cons (t : Utf16) (texts : List Utf16) : join (t :: texts) = t ++ more texts := by
  cases texts with
  | nil => rw [join, List.intercalate_singleton, more, List.append_nil]
  | cons t' texts =>
    rw [join, List.intercalate_cons_of_ne_nil (List.cons_ne_nil _ _), more, join, List.append_assoc,
      List.singleton_append]

theorem ends_more (texts : List Utf16) {u : UInt16} (hu : u = unit ']' ∨ u = unit '}') (r : Utf16) :
    Ends (more texts ++ u :: r) := by
  intro a ha
  cases texts with
  | nil => exact Or.inr (Option.some.inj ha ▸ hu)
  | cons t texts => exact Or.inl (Option.some.inj ha).symm

/-- Of two arrays that go on alike none is empty, or both are. -/
theorem more_items {vs ws : List Tree} {r r' : Utf16}
    (h : join (textItems vs) ++ unit ']' :: r = join (textItems ws) ++ unit ']' :: r') :
    more (textItems vs) ++ unit ']' :: r = more (textItems ws) ++ unit ']' :: r' := by
  rcases vs with - | ⟨v, vs⟩
  · rcases ws with - | ⟨w, ws⟩
    · exact h
    · rw [textItems, textItems, join_cons, List.append_assoc] at h
      exact absurd h.symm text_ne_close
  · rcases ws with - | ⟨w, ws⟩
    · rw [textItems, textItems, join_cons, List.append_assoc] at h
      exact absurd h text_ne_close
    · exact congrArg (unit ',' :: ·) h

theorem more_fields {fs gs : List (Utf16 × Tree)} {r r' : Utf16}
    (h : join (textFields fs) ++ unit '}' :: r = join (textFields gs) ++ unit '}' :: r') :
    more (textFields fs) ++ unit '}' :: r = more (textFields gs) ++ unit '}' :: r' := by
  rcases fs with - | ⟨⟨k, v⟩, fs⟩
  · rcases gs with - | ⟨⟨k, v⟩, gs⟩
    · exact h
    · rw [textFields, textFields, join_cons] at h
      exact absurd (List.cons.inj h).1 (by decide)
  · rcases gs with - | ⟨⟨k', w⟩, gs⟩
    · rw [textFields, textFields, join_cons] at h
      exact absurd (List.cons.inj h).1 (by decide)
    · exact congrArg (unit ',' :: ·) h

mutual

/-- **A text tells its tree, and where it ends.** -/
theorem text_cancel : ∀ (v w : Tree) {r r' : Utf16}, Ends r → Ends r' → text v ++ r = text w ++ r' → v = w ∧ r = r'
  | .null, w, r, r', _, _, h => by
    have hkind := kind_eq h
    cases w with
    | null => exact ⟨rfl, List.append_cancel_left h⟩
    | _ => exact Kind.noConfusion hkind
  | .bool b, w, r, r', _, _, h => by
    have hkind := kind_eq h
    cases w with
    | bool b' =>
      cases b with
      | true =>
        cases b' with
        | true => exact ⟨rfl, List.append_cancel_left h⟩
        | false => exact absurd (List.cons.inj h).1 (by decide)
      | false =>
        cases b' with
        | true => exact absurd (List.cons.inj h).1 (by decide)
        | false => exact ⟨rfl, List.append_cancel_left h⟩
    | _ => exact Kind.noConfusion hkind
  | .number x, w, r, r', hr, hr', h => by
    have hkind := kind_eq h
    cases w with
    | number y =>
      obtain ⟨rfl, hrest⟩ := number_cancel hr hr' h
      exact ⟨rfl, hrest⟩
    | _ => exact Kind.noConfusion hkind
  | .string s, w, r, r', _, _, h => by
    have hkind := kind_eq h
    cases w with
    | string t =>
      obtain ⟨rfl, hrest⟩ := quote_cancel h
      exact ⟨rfl, hrest⟩
    | _ => exact Kind.noConfusion hkind
  | .array items, w, r, r', _, _, h => by
    have hkind := kind_eq h
    cases w with
    | array items' =>
      have htail : join (textItems items) ++ [unit ']'] ++ r = join (textItems items') ++ [unit ']'] ++ r' :=
        (List.cons.inj h).2
      rw [List.append_assoc, List.append_assoc] at htail
      obtain ⟨hitems, hrest⟩ := items_cancel items items' (more_items htail)
      exact ⟨congrArg _ hitems, hrest⟩
    | _ => exact Kind.noConfusion hkind
  | .object fields, w, r, r', _, _, h => by
    have hkind := kind_eq h
    cases w with
    | object fields' =>
      have htail : join (textFields fields) ++ [unit '}'] ++ r = join (textFields fields') ++ [unit '}'] ++ r' :=
        (List.cons.inj h).2
      rw [List.append_assoc, List.append_assoc] at htail
      obtain ⟨hfields, hrest⟩ := fields_cancel fields fields' (more_fields htail)
      exact ⟨congrArg _ hfields, hrest⟩
    | _ => exact Kind.noConfusion hkind

theorem items_cancel : ∀ (vs ws : List Tree) {r r' : Utf16},
    more (textItems vs) ++ unit ']' :: r = more (textItems ws) ++ unit ']' :: r' → vs = ws ∧ r = r'
  | [], [], r, r', h => ⟨rfl, (List.cons.inj h).2⟩
  | [], w :: ws, r, r', h => absurd (List.cons.inj h).1 (by decide)
  | v :: vs, [], r, r', h => absurd (List.cons.inj h).1 (by decide)
  | v :: vs, w :: ws, r, r', h => by
    have htail : join (text v :: textItems vs) ++ unit ']' :: r = join (text w :: textItems ws) ++ unit ']' :: r' :=
      (List.cons.inj h).2
    rw [join_cons, join_cons, List.append_assoc, List.append_assoc] at htail
    obtain ⟨rfl, hmore⟩ := text_cancel v w (ends_more _ (Or.inl rfl) r) (ends_more _ (Or.inl rfl) r') htail
    obtain ⟨rfl, hrest⟩ := items_cancel vs ws hmore
    exact ⟨rfl, hrest⟩

theorem fields_cancel : ∀ (fs gs : List (Utf16 × Tree)) {r r' : Utf16},
    more (textFields fs) ++ unit '}' :: r = more (textFields gs) ++ unit '}' :: r' → fs = gs ∧ r = r'
  | [], [], r, r', h => ⟨rfl, (List.cons.inj h).2⟩
  | [], g :: gs, r, r', h => absurd (List.cons.inj h).1 (by decide)
  | f :: fs, [], r, r', h => absurd (List.cons.inj h).1 (by decide)
  | (k, v) :: fs, (k', w) :: gs, r, r', h => by
    have htail : join ((quote k ++ unit ':' :: text v) :: textFields fs) ++ unit '}' :: r =
        join ((quote k' ++ unit ':' :: text w) :: textFields gs) ++ unit '}' :: r' := (List.cons.inj h).2
    rw [join_cons, join_cons] at htail
    simp only [List.append_assoc, List.cons_append] at htail
    obtain ⟨rfl, hvalue⟩ := quote_cancel htail
    obtain ⟨rfl, hmore⟩ := text_cancel v w (ends_more _ (Or.inr rfl) r) (ends_more _ (Or.inr rfl) r')
      (List.cons.inj hvalue).2
    obtain ⟨rfl, hrest⟩ := fields_cancel fs gs hmore
    exact ⟨rfl, hrest⟩

end

theorem text_injective {v w : Tree} (h : text v = text w) : v = w := by
  have hends : Ends [] := by
    intro u hu
    cases hu
  exact (text_cancel v w hends hends (by rw [h])).1

/-! ## The order of keys -/

section Fields

variable {β γ : Type*} {fs gs : List (Utf16 × β)}

/-- `sort()` of the keys, by code units. -/
def sortFields (fs : List (Utf16 × β)) : List (Utf16 × β) := fs.mergeSort fun f g => decide (f.1 ≤ g.1)

theorem sortFields_perm (fs : List (Utf16 × β)) : (sortFields fs).Perm fs := List.mergeSort_perm fs _

/-- The values have no part in the order. -/
theorem map_sortFields (f : Utf16 × β → γ) :
    (sortFields fs).map (fun p => (p.1, f p)) = sortFields (fs.map fun p => (p.1, f p)) :=
  List.map_mergeSort fun _ _ _ _ => rfl

theorem sortFields_pairwise (fs : List (Utf16 × β)) : (sortFields fs).Pairwise fun f g => f.1 ≤ g.1 := by
  have htrans : ∀ f g h : Utf16 × β, decide (f.1 ≤ g.1) = true → decide (g.1 ≤ h.1) = true →
      decide (f.1 ≤ h.1) = true :=
    fun f g h hfg hgh => decide_eq_true (Std.le_trans (of_decide_eq_true hfg) (of_decide_eq_true hgh))
  have htotal : ∀ f g : Utf16 × β, (decide (f.1 ≤ g.1) || decide (g.1 ≤ f.1)) = true :=
    fun f g => by simpa using Std.le_total (a := f.1) (b := g.1)
  exact (List.pairwise_mergeSort htrans htotal fs).imp of_decide_eq_true

theorem eq_of_key_eq (hfs : (fs.map Prod.fst).Nodup) {f g : Utf16 × β} (hf : f ∈ fs) (hg : g ∈ fs) (h : f.1 = g.1) :
    f = g :=
  List.inj_on_of_nodup_map hfs hf hg h

/-- Without a key twice there is one way to put the keys in order. -/
theorem sortFields_eq (hfs : (fs.map Prod.fst).Nodup) (h : fs.Perm gs) : sortFields fs = sortFields gs := by
  refine List.Perm.eq_of_pairwise (fun f g hf hg hle hle' => ?_) (sortFields_pairwise fs) (sortFields_pairwise gs)
    ((sortFields_perm fs).trans (h.trans (sortFields_perm gs).symm))
  exact eq_of_key_eq hfs ((sortFields_perm fs).subset hf) (h.symm.subset ((sortFields_perm gs).subset hg))
    (Std.le_antisymm hle hle')

end Fields

/-- Equality up to the order of the keys of objects: any of them may be put in another order, at any depth. -/
inductive Reordered : Tree → Tree → Prop
  | refl (v : Tree) : Reordered v v
  | trans {u v w : Tree} : Reordered u v → Reordered v w → Reordered u w
  | keys {fs gs : List (Utf16 × Tree)} : fs.Perm gs → Reordered (.object fs) (.object gs)
  | item {vs ws : List Tree} {v w : Tree} :
      Reordered v w → Reordered (.array (vs ++ v :: ws)) (.array (vs ++ w :: ws))
  | field {fs gs : List (Utf16 × Tree)} {k : Utf16} {v w : Tree} :
      Reordered v w → Reordered (.object (fs ++ (k, v) :: gs)) (.object (fs ++ (k, w) :: gs))

mutual

/-- The keys in order, at every depth. -/
def sorted : Tree → Tree
  | .array items => .array (sortedItems items)
  | .object fields => .object (sortFields (sortedFields fields))
  | .null => .null
  | .bool b => .bool b
  | .number x => .number x
  | .string s => .string s

def sortedItems : List Tree → List Tree
  | [] => []
  | v :: items => sorted v :: sortedItems items

def sortedFields : List (Utf16 × Tree) → List (Utf16 × Tree)
  | [] => []
  | (k, v) :: fields => (k, sorted v) :: sortedFields fields

end

mutual

/-- No object has a key twice. -/
def DistinctKeys : Tree → Prop
  | .array items => DistinctItems items
  | .object fields => (fields.map Prod.fst).Nodup ∧ DistinctFields fields
  | .null | .bool _ | .number _ | .string _ => True

def DistinctItems : List Tree → Prop
  | [] => True
  | v :: items => DistinctKeys v ∧ DistinctItems items

def DistinctFields : List (Utf16 × Tree) → Prop
  | [] => True
  | (_, v) :: fields => DistinctKeys v ∧ DistinctFields fields

end

theorem sortedItems_eq (items : List Tree) : sortedItems items = items.map sorted := by
  induction items with
  | nil => rfl
  | cons v items ih => rw [sortedItems, ih, List.map_cons]

theorem sortedFields_eq (fields : List (Utf16 × Tree)) :
    sortedFields fields = fields.map fun f => (f.1, sorted f.2) := by
  induction fields with
  | nil => rfl
  | cons f fields ih =>
    obtain ⟨k, v⟩ := f
    rw [sortedFields, ih, List.map_cons]

theorem distinctItems_iff (items : List Tree) : DistinctItems items ↔ ∀ v ∈ items, DistinctKeys v := by
  induction items with
  | nil => exact ⟨fun _ _ hv => absurd hv List.not_mem_nil, fun _ => trivial⟩
  | cons v items ih => rw [DistinctItems, ih, List.forall_mem_cons]

theorem distinctFields_iff (fields : List (Utf16 × Tree)) :
    DistinctFields fields ↔ ∀ f ∈ fields, DistinctKeys f.2 := by
  induction fields with
  | nil => exact ⟨fun _ _ hf => absurd hf List.not_mem_nil, fun _ => trivial⟩
  | cons f fields ih =>
    obtain ⟨k, v⟩ := f
    rw [DistinctFields, ih, List.forall_mem_cons]

theorem Reordered.symm {v w : Tree} (h : Reordered v w) : Reordered w v := by
  induction h with
  | refl v => exact .refl v
  | trans _ _ ih ih' => exact ih'.trans ih
  | keys hperm => exact .keys hperm.symm
  | item _ ih => exact ih.item
  | field _ ih => exact ih.field

mutual

theorem reordered_sorted : ∀ v : Tree, Reordered v (sorted v)
  | .array items => by
    rw [sorted]
    exact reordered_items [] items
  | .object fields => by
    rw [sorted]
    exact (reordered_fields [] fields).trans (.keys (sortFields_perm _).symm)
  | .null => .refl _
  | .bool _ => .refl _
  | .number _ => .refl _
  | .string _ => .refl _

theorem reordered_items : ∀ (done items : List Tree),
    Reordered (.array (done ++ items)) (.array (done ++ sortedItems items))
  | done, [] => .refl _
  | done, v :: items => by
    have hrest := reordered_items (done ++ [sorted v]) items
    rw [List.append_assoc, List.append_assoc] at hrest
    exact (reordered_sorted v).item.trans hrest

theorem reordered_fields : ∀ (done fields : List (Utf16 × Tree)),
    Reordered (.object (done ++ fields)) (.object (done ++ sortedFields fields))
  | done, [] => .refl _
  | done, (k, v) :: fields => by
    have hrest := reordered_fields (done ++ [(k, sorted v)]) fields
    rw [List.append_assoc, List.append_assoc] at hrest
    exact (reordered_sorted v).field.trans hrest

end

/-- Another order of keys has the same keys in order. -/
theorem Reordered.sorted_eq {v w : Tree} (h : Reordered v w) (hv : DistinctKeys v) :
    sorted v = sorted w ∧ DistinctKeys w := by
  induction h with
  | refl v => exact ⟨rfl, hv⟩
  | trans _ _ ih ih' =>
    obtain ⟨heq, hmid⟩ := ih hv
    obtain ⟨heq', hw⟩ := ih' hmid
    exact ⟨heq.trans heq', hw⟩
  | @keys fs gs hperm =>
    rw [DistinctKeys, distinctFields_iff] at hv
    have hkeys : ((fs.map fun f => (f.1, sorted f.2)).map Prod.fst).Nodup := by
      rw [List.map_map]
      exact hv.1
    refine ⟨?_, ?_⟩
    · rw [sorted, sorted, sortedFields_eq, sortedFields_eq, sortFields_eq hkeys (hperm.map _)]
    · rw [DistinctKeys, distinctFields_iff]
      exact ⟨(hperm.map Prod.fst).nodup_iff.mp hv.1, fun f hf => hv.2 f (hperm.symm.subset hf)⟩
  | @item vs ws v w _ ih =>
    rw [DistinctKeys, distinctItems_iff, List.forall_mem_append, List.forall_mem_cons] at hv
    obtain ⟨heq, hw⟩ := ih hv.2.1
    refine ⟨?_, ?_⟩
    · rw [sorted, sorted, sortedItems_eq, sortedItems_eq, List.map_append, List.map_append, List.map_cons,
        List.map_cons, heq]
    · rw [DistinctKeys, distinctItems_iff, List.forall_mem_append, List.forall_mem_cons]
      exact ⟨hv.1, hw, hv.2.2⟩
  | @field fs gs k v w _ ih =>
    rw [DistinctKeys, distinctFields_iff, List.forall_mem_append, List.forall_mem_cons] at hv
    obtain ⟨heq, hw⟩ := ih hv.2.2.1
    refine ⟨?_, ?_⟩
    · rw [sorted, sorted, sortedFields_eq, sortedFields_eq, List.map_append, List.map_append, List.map_cons,
        List.map_cons, heq]
    · rw [DistinctKeys, distinctFields_iff, List.forall_mem_append, List.forall_mem_cons]
      have hkeys := hv.1
      rw [List.map_append, List.map_cons] at hkeys ⊢
      exact ⟨hkeys, hv.2.1, hw, hv.2.2.2⟩

theorem sorted_eq_iff {v w : Tree} (hv : DistinctKeys v) : sorted v = sorted w ↔ Reordered v w := by
  constructor
  · intro heq
    have hw := (reordered_sorted w).symm
    rw [← heq] at hw
    exact (reordered_sorted v).trans hw
  · exact fun h => (h.sorted_eq hv).1

/-- A JSON value. -/
structure JsonTree where
  tree : Tree
  distinct : DistinctKeys tree

end DTwin.JsonText
