import DTwin.Lib.Result
import Mathlib.Algebra.Group.Nat.Defs
import Mathlib.Data.List.Induction
import Mathlib.Data.List.TakeWhile
import Mathlib.Data.Nat.Notation
import Mathlib.Order.Lattice
import Mathlib.Tactic.Common

/-!
# DTwin.Lib.Inet — textual IP addresses

`ipv4?` and `ipv6?` read the textual forms of an address: a dotted quad without leading zeros; eight
hexadecimal groups, one run of them left out at `::`, the last two perhaps written as a quad, and
perhaps a zone after `%`.  `isIP` is the family of an address, if it is one; `inSubnet` compares
leading bits.

`ipv4?_spec` says what a dotted quad looks like, and `ipv4?_of_ipv6?` that no text is of both families;
`ipv6?_mapped_quad` and `ipv6?_mapped_groups` read a text that begins with `::ffff:`.

Nothing here knows what an address is used for.
-/

namespace DTwin.Inet

inductive Family | ipv4 | ipv6
deriving DecidableEq

/-- 32 or 128. -/
def Family.width : Family → ℕ
  | ipv4 => 32
  | ipv6 => 128

/-! ## Digits -/

def digit? (c : Char) : Option ℕ := if '0' ≤ c ∧ c ≤ '9' then some (c.toNat - '0'.toNat) else none

def hexDigit? (c : Char) : Option ℕ :=
  if 'a' ≤ c ∧ c ≤ 'f' then some (c.toNat - 'a'.toNat + 10)
  else if 'A' ≤ c ∧ c ≤ 'F' then some (c.toNat - 'A'.toNat + 10)
  else digit? c

/-- A number in the given base, most significant digit first. -/
def number? (base : ℕ) (digit? : Char → Option ℕ) (s : List Char) : Option ℕ :=
  s.foldl (fun n c => n.bind fun n => (digit? c).map fun d => n * base + d) (some 0)

/-- One to three decimal digits, up to 255, without a leading zero. -/
def octet? (s : List Char) : Option ℕ :=
  if s = [] ∨ 3 < s.length ∨ (1 < s.length ∧ s.head? = some '0') then none
  else (number? 10 digit? s).filter (· ≤ 255)

/-- One to four hexadecimal digits. -/
def group? (s : List Char) : Option ℕ :=
  if s = [] ∨ 4 < s.length then none else number? 16 hexDigit? s

/-! ## Addresses -/

/-- The four octets of a dotted quad. -/
def quad? (s : List Char) : Option (List ℕ) :=
  let parts := s.splitOn '.'
  if parts.length = 4 then parts.mapM octet? else none

/-- The value of digits in the given base, most significant first. -/
def ofDigits (base : ℕ) (ds : List ℕ) : ℕ := ds.foldl (fun n d => n * base + d) 0

def ipv4? (s : List Char) : Option ℕ := (quad? s).map (ofDigits 256)

/-- The 16-bit groups of a colon-separated text; its last part may be a dotted quad, which is two. -/
def groups? (s : List Char) : Option (List ℕ) :=
  if s = [] then some []
  else
    let parts := s.splitOn ':'
    match (parts.getLast?).bind ipv4? with
    | some v => (parts.dropLast.mapM group?).map (· ++ [v / 65536, v % 65536])
    | none => parts.mapM group?

/-- What stands before and after the first `::`. -/
def cutRun? : List Char → Option (List Char × List Char)
  | ':' :: ':' :: s => some ([], s)
  | c :: s => (cutRun? s).map fun p => (c :: p.1, p.2)
  | [] => none

/-- The characters of a zone. -/
def isZoneChar (c : Char) : Bool := c.isAlphanum || c == '-' || c == '.' || c == ':'

/-- The text without its zone; `none` when what follows `%` is no zone. -/
def cutZone? (s : List Char) : Option (List Char) :=
  let zone := s.dropWhile (· != '%')
  if zone = [] then some s
  else if zone.length = 1 ∨ !zone.tail.all isZoneChar then none
  else some (s.takeWhile (· != '%'))

/-- The eight groups of an IPv6 address. -/
def eightGroups? (s : List Char) : Option (List ℕ) :=
  match cutRun? s with
  | none => (groups? s).filter (·.length = 8)
  | some (left, right) =>
    -- only the end of the text may be a quad
    if left.contains '.' then none
    else (groups? left).bind fun l => (groups? right).bind fun r =>
      if l.length + r.length ≤ 7 then some (l ++ List.replicate (8 - l.length - r.length) 0 ++ r)
      else none

def ipv6? (s : List Char) : Option ℕ := ((cutZone? s).bind eightGroups?).map (ofDigits 65536)

/-- The value of an address of the family. -/
def Family.value? : Family → List Char → Option ℕ
  | ipv4 => ipv4?
  | ipv6 => ipv6?

/-- The family of an address, `none` for a text that is none. -/
def isIP (s : List Char) : Option Family :=
  if (ipv4? s).isSome then some .ipv4 else if (ipv6? s).isSome then some .ipv6 else none

/-- The two agree on the first `bits` of `width`. -/
def inSubnet (width bits net value : ℕ) : Bool := value >>> (width - bits) == net >>> (width - bits)

/-! ## Numbers -/

section Numbers

variable {base : ℕ} {digit? : Char → Option ℕ}

theorem number?_snoc (s : List Char) (c : Char) :
    number? base digit? (s ++ [c]) = (number? base digit? s).bind fun n => (digit? c).map fun d => n * base + d := by
  simp [number?]

/-- A number is made of digits, and bounded by how many. -/
theorem number?_spec (hdigit : ∀ c d, digit? c = some d → d < base) {s : List Char} {n : ℕ}
    (hn : number? base digit? s = some n) : (∀ c ∈ s, (digit? c).isSome = true) ∧ n < base ^ s.length := by
  induction s using List.reverseRecOn generalizing n with
  | nil =>
    obtain rfl := Option.some.inj hn
    simp
  | append_singleton s c ih =>
    rw [number?_snoc] at hn
    obtain ⟨m, hm, hlast⟩ := Option.bind_eq_some_iff.mp hn
    obtain ⟨d, hd, rfl⟩ := Option.map_eq_some_iff.mp hlast
    obtain ⟨hall, hlt⟩ := ih hm
    constructor
    · intro c' hc'
      rcases List.mem_append.mp hc' with hs | hc
      · exact hall c' hs
      · rw [List.mem_singleton.mp hc, hd]
        rfl
    · have hd' := hdigit c d hd
      calc m * base + d < m * base + base := Nat.add_lt_add_left hd' _
        _ = (m + 1) * base := (Nat.succ_mul m base).symm
        _ ≤ base ^ s.length * base := Nat.mul_le_mul_right base hlt
        _ = base ^ (s ++ [c]).length := by rw [List.length_append, List.length_singleton, Nat.pow_succ]

end Numbers

theorem digit?_lt {c : Char} {d : ℕ} (hd : digit? c = some d) : d < 10 := by
  unfold digit? at hd
  split_ifs at hd with hc
  have hle : c.toNat ≤ '9'.toNat := hc.2
  have hnine : '9'.toNat = 57 := rfl
  have hzero : '0'.toNat = 48 := rfl
  have heq := Option.some.inj hd
  omega

theorem hexDigit?_lt {c : Char} {d : ℕ} (hd : hexDigit? c = some d) : d < 16 := by
  unfold hexDigit? at hd
  split_ifs at hd with hlower hupper
  · have hle : c.toNat ≤ 'f'.toNat := hlower.2
    have hf : 'f'.toNat = 102 := rfl
    have ha : 'a'.toNat = 97 := rfl
    have heq := Option.some.inj hd
    omega
  · have hle : c.toNat ≤ 'F'.toNat := hupper.2
    have hf : 'F'.toNat = 70 := rfl
    have ha : 'A'.toNat = 65 := rfl
    have heq := Option.some.inj hd
    omega
  · have hlt := digit?_lt hd
    omega

theorem octet?_spec {s : List Char} {n : ℕ} (hn : octet? s = some n) :
    (∀ c ∈ s, (digit? c).isSome = true) ∧ n < 256 := by
  unfold octet? at hn
  split_ifs at hn
  obtain ⟨hnumber, hle⟩ := Option.filter_eq_some_iff.mp hn
  exact ⟨(number?_spec (fun _ _ => digit?_lt) hnumber).1, Nat.lt_succ_of_le (of_decide_eq_true hle)⟩

theorem group?_spec {s : List Char} {n : ℕ} (hn : group? s = some n) :
    (∀ c ∈ s, (hexDigit? c).isSome = true) ∧ n < 65536 := by
  unfold group? at hn
  split_ifs at hn with hlength
  obtain ⟨hall, hlt⟩ := number?_spec (fun _ _ => hexDigit?_lt) hn
  have hfour : s.length ≤ 4 := Nat.le_of_not_lt fun h => hlength (Or.inr h)
  exact ⟨hall, Nat.lt_of_lt_of_le hlt (Nat.pow_le_pow_right (by decide) hfour)⟩

theorem not_mem_of_isSome {digit? : Char → Option ℕ} {s : List Char} {x : Char} (hx : digit? x = none)
    (hall : ∀ c ∈ s, (digit? c).isSome = true) : x ∉ s := by
  intro hmem
  have hsome := hall x hmem
  rw [hx] at hsome
  cases hsome

/-! ## What an address looks like -/

/-- What holds of every character of the parts and of the separator. -/
theorem forall_mem_intercalate {x : Char} {P : Char → Prop} (hx : P x) :
    ∀ parts : List (List Char), (∀ p ∈ parts, ∀ c ∈ p, P c) → ∀ c ∈ [x].intercalate parts, P c := by
  intro parts hparts c hc
  induction parts with
  | nil => simp at hc
  | cons p parts ih =>
    cases parts with
    | nil => exact hparts p List.mem_cons_self c (by simpa using hc)
    | cons p' parts =>
      rw [List.intercalate_cons_cons, List.append_assoc, List.mem_append, List.mem_append] at hc
      rcases hc with hp | hsep | hrest
      · exact hparts p List.mem_cons_self c hp
      · rw [List.mem_singleton.mp hsep]
        exact hx
      · exact ih (fun q hq => hparts q (List.mem_cons_of_mem _ hq)) hrest

/-- A dotted quad is four octets. -/
theorem ipv4?_eq_some {s : List Char} {v : ℕ} (hv : ipv4? s = some v) : ∃ p q r t a b c d,
    s.splitOn '.' = [p, q, r, t] ∧ octet? p = some a ∧ octet? q = some b ∧ octet? r = some c ∧ octet? t = some d ∧
      v = ((a * 256 + b) * 256 + c) * 256 + d := by
  unfold ipv4? quad? at hv
  obtain ⟨octets, hquad, rfl⟩ := Option.map_eq_some_iff.mp hv
  dsimp only at hquad
  split_ifs at hquad with hfour
  have hall := Result.mapM_eq_some.mp hquad
  match hparts : s.splitOn '.', hfour, hall with
  | [p, q, r, t], _, .cons ha (.cons hb (.cons hc (.cons hd .nil))) =>
    exact ⟨p, q, r, t, _, _, _, _, rfl, ha, hb, hc, hd, by simp [ofDigits]⟩

/-- It has digits and points, and denotes a number of 32 bits. -/
theorem ipv4?_spec {s : List Char} {v : ℕ} (hv : ipv4? s = some v) :
    (∀ c ∈ s, (digit? c).isSome = true ∨ c = '.') ∧ v < 4294967296 := by
  obtain ⟨p, q, r, t, a, b, c, d, hparts, ha, hb, hc, hd, rfl⟩ := ipv4?_eq_some hv
  obtain ⟨hp, ha⟩ := octet?_spec ha
  obtain ⟨hq, hb⟩ := octet?_spec hb
  obtain ⟨hr, hc⟩ := octet?_spec hc
  obtain ⟨ht, hd⟩ := octet?_spec hd
  refine ⟨?_, by omega⟩
  have hs : s = ['.'].intercalate [p, q, r, t] := by rw [← hparts, List.intercalate_splitOn]
  rw [hs]
  refine forall_mem_intercalate (Or.inr rfl) _ fun part hpart x hx => Or.inl ?_
  simp only [List.mem_cons, List.not_mem_nil, or_false] at hpart
  rcases hpart with rfl | rfl | rfl | rfl
  · exact hp x hx
  · exact hq x hx
  · exact hr x hx
  · exact ht x hx

theorem ipv4?_not_mem {s : List Char} {v : ℕ} (hv : ipv4? s = some v) {x : Char} (hx : digit? x = none)
    (hpoint : x ≠ '.') : x ∉ s := by
  intro hmem
  rcases (ipv4?_spec hv).1 x hmem with hsome | heq
  · rw [hx] at hsome
    cases hsome
  · exact hpoint heq

theorem cutRun?_eq_none {s : List Char} (hs : ':' ∉ s) : cutRun? s = none := by
  induction s with
  | nil => rfl
  | cons c s ih =>
    have hc : c ≠ ':' := fun h => hs (h ▸ List.mem_cons_self)
    have hrest := ih fun h => hs (List.mem_cons_of_mem _ h)
    unfold cutRun?
    split
    · rename_i heq
      exact absurd (List.cons.inj heq).1 hc
    · rename_i heq
      rw [← (List.cons.inj heq).2, hrest]
      rfl
    · rfl

theorem cutZone?_eq {s : List Char} (hs : '%' ∉ s) : cutZone? s = some s := by
  have hnil : s.dropWhile (· != '%') = [] := by
    refine List.dropWhile_eq_nil_iff.mpr fun c hc => ?_
    have hne : c ≠ '%' := fun h => hs (h ▸ hc)
    simpa using hne
  unfold cutZone?
  simp only [hnil, if_true]

/-- The groups of a text whose last part is a quad. -/
theorem groups?_quad {s : List Char} {parts : List (List Char)} {quad : List Char} {v : ℕ} (hne : s ≠ [])
    (hparts : s.splitOn ':' = parts ++ [quad]) (hv : ipv4? quad = some v) :
    groups? s = (parts.mapM group?).map (· ++ [v / 65536, v % 65536]) := by
  unfold groups?
  rw [if_neg hne]
  simp [hparts, hv]

/-- The groups of a text whose last part is none. -/
theorem groups?_groups {s last : List Char} {parts : List (List Char)} (hne : s ≠ [])
    (hparts : s.splitOn ':' = parts ++ [last]) (hlast : ipv4? last = none) :
    groups? s = (parts ++ [last]).mapM group? := by
  unfold groups?
  rw [if_neg hne]
  simp [hparts, hlast]

/-- **No text is of both families.** -/
theorem ipv4?_of_ipv6? {s : List Char} {v : ℕ} (hv : ipv6? s = some v) : ipv4? s = none := by
  by_contra hsome
  obtain ⟨u, hu⟩ := Option.ne_none_iff_exists'.mp hsome
  have hcolon := ipv4?_not_mem hu (x := ':') rfl (by decide)
  have hzone := ipv4?_not_mem hu (x := '%') rfl (by decide)
  have hne : s ≠ [] := by
    rintro rfl
    cases hu
  unfold ipv6? eightGroups? at hv
  rw [cutZone?_eq hzone, Option.bind_some, cutRun?_eq_none hcolon] at hv
  have hparts : s.splitOn ':' = [] ++ [s] := List.splitOn_eq_singleton hcolon
  have hgroups := groups?_quad hne hparts hu
  simp [hgroups] at hv

/-! ## A text that begins with `::ffff:` -/

/-- `ffff` in any case. -/
def IsFfff (head : List Char) : Prop := ∃ a b c d, head = [a, b, c, d] ∧ ∀ x ∈ head, x = 'f' ∨ x = 'F'

theorem IsFfff.group? {head : List Char} (hhead : IsFfff head) : group? head = some 65535 := by
  obtain ⟨a, b, c, d, rfl, hall⟩ := hhead
  simp only [List.mem_cons, List.not_mem_nil, or_false, forall_eq_or_imp, forall_eq] at hall
  rcases hall with ⟨rfl | rfl, rfl | rfl, rfl | rfl, rfl | rfl⟩ <;> rfl

theorem IsFfff.not_mem {head : List Char} (hhead : IsFfff head) {x : Char} (hx : x ≠ 'f') (hX : x ≠ 'F') :
    x ∉ head := by
  obtain ⟨a, b, c, d, -, hall⟩ := hhead
  intro hmem
  rcases hall x hmem with heq | heq
  · exact hx heq
  · exact hX heq

section Mapped

variable {head s : List Char}

/-- Its value, given the groups of the rest. -/
theorem ipv6?_run (hhead : IsFfff head) (hs : '%' ∉ s) :
    ipv6? (':' :: ':' :: (head ++ ':' :: s)) = (groups? (head ++ ':' :: s)).bind fun r =>
      if r.length ≤ 7 then some (ofDigits 65536 (List.replicate (8 - r.length) 0 ++ r)) else none := by
  have hzone : '%' ∉ ':' :: ':' :: (head ++ ':' :: s) := by
    have hh := hhead.not_mem (x := '%') (by decide) (by decide)
    simp [hh, hs]
  have hrun : cutRun? (':' :: ':' :: (head ++ ':' :: s)) = some ([], head ++ ':' :: s) := rfl
  unfold ipv6? eightGroups?
  rw [cutZone?_eq hzone, Option.bind_some, hrun]
  have hnil : groups? [] = some [] := rfl
  cases hgroups : groups? (head ++ ':' :: s) with
  | none =>
    simp only [hnil, List.contains_nil, Bool.false_eq_true, if_false, hgroups, Option.bind_some, Option.bind_none]
    rfl
  | some r =>
    simp only [hnil, List.contains_nil, Bool.false_eq_true, if_false, hgroups, Option.bind_some, List.length_nil,
      Nat.zero_add, Nat.sub_zero, List.nil_append]
    split_ifs <;> rfl

theorem ofDigits_mapped (hi lo : ℕ) :
    ofDigits 65536 (List.replicate (8 - [65535, hi, lo].length) 0 ++ [65535, hi, lo]) =
    65535 * 4294967296 + (hi * 65536 + lo) := by
  have hfold : ofDigits 65536 (List.replicate (8 - [65535, hi, lo].length) 0 ++ [65535, hi, lo]) =
      (65535 * 65536 + hi) * 65536 + lo := by simp [ofDigits, List.replicate_succ]
  rw [hfold]
  omega

/-- **The rest is a quad**, or else the text is no address. -/
theorem ipv6?_mapped_quad (hhead : IsFfff head) (hcolon : ':' ∉ s) (hzone : '%' ∉ s) (hpoint : '.' ∈ s) :
    ipv6? (':' :: ':' :: (head ++ ':' :: s)) = (ipv4? s).map fun w => 65535 * 4294967296 + w := by
  have hne : head ++ ':' :: s ≠ [] := by simp
  have hparts : (head ++ ':' :: s).splitOn ':' = [head] ++ [s] := by
    rw [List.splitOn_append_cons_self_of_not_mem (hhead.not_mem (by decide) (by decide)),
      List.splitOn_eq_singleton hcolon]
    rfl
  rw [ipv6?_run hhead hzone]
  cases hquad : ipv4? s with
  | some w =>
    have hgroups : groups? (head ++ ':' :: s) = some [65535, w / 65536, w % 65536] := by
      rw [groups?_quad hne hparts hquad]
      simp [hhead.group?]
    have hvalue : w / 65536 * 65536 + w % 65536 = w := by omega
    rw [hgroups, Option.bind_some, if_pos (by simp : [65535, w / 65536, w % 65536].length ≤ 7), ofDigits_mapped, hvalue]
    rfl
  | none =>
    have hnone : group? s = none := by
      by_contra hsome
      obtain ⟨n, hn⟩ := Option.ne_none_iff_exists'.mp hsome
      exact not_mem_of_isSome rfl (group?_spec hn).1 hpoint
    have hgroups : groups? (head ++ ':' :: s) = none := by
      rw [groups?_groups hne hparts hquad]
      simp [hhead.group?, hnone]
    rw [hgroups]
    rfl

/-- **The rest is two groups.** -/
theorem ipv6?_mapped_groups (hhead : IsFfff head) {p q : List Char} {hi lo : ℕ} (hparts : s.splitOn ':' = [p, q])
    (hp : group? p = some hi) (hq : group? q = some lo) :
    ipv6? (':' :: ':' :: (head ++ ':' :: s)) = some (65535 * 4294967296 + (hi * 65536 + lo)) := by
  have hs : s = p ++ ':' :: q := by
    have hjoined : [':'].intercalate (s.splitOn ':') = s := List.intercalate_splitOn ':'
    rw [← hjoined, hparts]
    simp [List.intercalate]
  have hnot : ∀ {t : List Char} {n : ℕ}, group? t = some n → '%' ∉ t ∧ '.' ∉ t := fun h =>
    ⟨not_mem_of_isSome rfl (group?_spec h).1, not_mem_of_isSome rfl (group?_spec h).1⟩
  have hzone : '%' ∉ s := by
    rw [hs]
    simp [(hnot hp).1, (hnot hq).1]
  have hlast : ipv4? q = none := by
    unfold ipv4? quad?
    simp [List.splitOn_eq_singleton (hnot hq).2]
  have hsplit : (head ++ ':' :: s).splitOn ':' = [head, p] ++ [q] := by
    rw [List.splitOn_append_cons_self_of_not_mem (hhead.not_mem (by decide) (by decide)), hparts]
    rfl
  have hgroups : groups? (head ++ ':' :: s) = some [65535, hi, lo] := by
    rw [groups?_groups (by simp) hsplit hlast]
    simp [hhead.group?, hp, hq]
  rw [ipv6?_run hhead hzone, hgroups, Option.bind_some, if_pos (by simp : [65535, hi, lo].length ≤ 7), ofDigits_mapped]

end Mapped

end DTwin.Inet
