import DTwin.Lib.Scan
import DTwin.Lib.Text

/-!
# DTwin.Db.Split — statements of a migration

`splitStatements` of `packages/db/src/sql-split.ts`, and the tokens of PostgreSQL as far as they hide a semicolon.

The two go over the same comments, literals and quoted identifiers (`splitStatements_eq`), apart from what the splitter
does not know of: escapes in `E'…'`, dollar signs in identifiers, tags that are not ASCII, and carriage returns.
-/

namespace DTwin.Db.Split

open Scan

/-! ## Parts of tokens -/

/-- A literal behind its opening quote: up to a quote that is not doubled. -/
def literal (quote : Char) : List Char → ℕ
  | [] => 0
  | [_] => 1
  | c :: d :: s => if c = quote then (if d = quote then literal quote s + 2 else 1) else literal quote (d :: s) + 1

/-- Comments nest. -/
def blockComment : ℕ → List Char → ℕ
  | 0, _ => 0
  | _ + 1, [] => 0
  | _ + 1, [_] => 1
  | depth + 1, c :: d :: s =>
    if c = '/' ∧ d = '*' then blockComment (depth + 2) s + 2
    else if c = '*' ∧ d = '/' then blockComment depth s + 2
    else blockComment (depth + 1) (d :: s) + 1

/-- `indexOf`. -/
def indexOf (marker : List Char) : List Char → Option ℕ
  | [] => if marker = [] then some 0 else none
  | c :: s => if marker.isPrefixOf (c :: s) then some 0 else (indexOf marker s).map (· + 1)

/-- `$tag$` at the head of a text, of these characters. -/
def dollarTag (isStart isCont : Char → Bool) : List Char → Option ℕ
  | '$' :: '$' :: _ => some 2
  | '$' :: c :: s =>
    if isStart c ∧ (s.dropWhile isCont).head? = some '$' then some ((s.takeWhile isCont).length + 3) else none
  | _ => none

/-- A dollar-quoted string with a marker of this length: up to where the marker comes again. -/
def dollarString (n : ℕ) (s : List Char) : ℕ :=
  match indexOf (s.take n) (s.drop n) with
  | some k => n + k + n
  | none => s.length

/-! ## The splitter -/

def isLetter (c : Char) : Bool := ('A' ≤ c ∧ c ≤ 'Z') ∨ ('a' ≤ c ∧ c ≤ 'z') ∨ c = '_'

def isDigit (c : Char) : Bool := '0' ≤ c ∧ c ≤ '9'

/-- `/^\$[A-Za-z_][A-Za-z0-9_]*\$|^\$\$/`. -/
def tag : List Char → Option ℕ := dollarTag isLetter fun c => isLetter c || isDigit c

/-- `sql.indexOf(c, i)`, and behind it. -/
def through (c : Char) : List Char → ℕ
  | [] => 0
  | d :: s => if d = c then 1 else through c s + 1

/-- How far one round of the loop goes. -/
def advance : List Char → ℕ
  | [] => 0
  | c :: s =>
    if c = '-' ∧ s.head? = some '-' then through '\n' (c :: s)
    else if c = '/' ∧ s.head? = some '*' then blockComment 1 (s.drop 1) + 2
    else if c = '\'' then literal '\'' s + 1
    else if c = '"' then through '"' s + 1
    else
      match tag (c :: s) with
      | some n => dollarString n (c :: s)
      | none => 1

def splitter : Unit → List Char → ℕ × Unit := fun _ s => (advance s, ())

/-- Trimmed, and only those that are not empty. -/
def trimmed (pieces : List (List Char)) : List (List Char) := (pieces.map Text.trim).filter (0 < ·.length)

def splitStatements (sql : List Char) : List (List Char) := trimmed (pieces ';' splitter 0 () [] sql)

/-! ## PostgreSQL -/

namespace Postgres

/-- Letters, the underscore, and what is not ASCII. -/
def identStart (c : Char) : Bool := isLetter c || 128 ≤ c.toNat

def tagCont (c : Char) : Bool := identStart c || isDigit c

def identCont (c : Char) : Bool := tagCont c || c = '$'

def isNewline (c : Char) : Bool := c = '\n' || c = '\r'

def isSpace (c : Char) : Bool := isNewline c || [9, 11, 12, 32].contains c.toNat

/-- An escape string behind its opening quote: a backslash takes the next character with it. -/
def escape : List Char → ℕ
  | [] => 0
  | [_] => 1
  | c :: d :: s =>
    if c = '\\' then escape s + 2
    else if c = '\'' then (if d = '\'' then escape s + 2 else 1)
    else escape (d :: s) + 1

/-- Whether a backslash takes a quote with it. -/
def escapesQuote : List Char → Bool
  | [] => false
  | [_] => false
  | c :: d :: s =>
    if c = '\\' then d = '\'' || escapesQuote s
    else if c = '\'' then (if d = '\'' then escapesQuote s else false)
    else escapesQuote (d :: s)

/-- What is behind: an escape string goes on with a quote on another line. -/
inductive Behind | other | escape | escapeNewline
deriving DecidableEq

inductive Kind
  | lineComment | blockComment | literal
  /-- `E'…'`, or where it goes on. -/
  | escape (opening : ℕ)
  | quoted
  | dollar (marker : ℕ)
  | identifier | number | space | other

/-- The token at the head of a text. -/
def kind (b : Behind) : List Char → Kind
  | [] => .other
  | c :: s =>
    if c = '-' ∧ s.head? = some '-' then .lineComment
    else if c = '/' ∧ s.head? = some '*' then .blockComment
    else if c = '\'' then if b = .escapeNewline then .escape 1 else .literal
    else if (c = 'e' ∨ c = 'E') ∧ s.head? = some '\'' then .escape 2
    else if c = '"' then .quoted
    else
      match dollarTag identStart tagCont (c :: s) with
      | some n => .dollar n
      | none =>
        if identStart c then .identifier else if isDigit c then .number else if isSpace c then .space else .other

def Kind.length (s : List Char) : Kind → ℕ
  | .lineComment => (s.takeWhile fun c => !isNewline c).length
  | .blockComment => Split.blockComment 1 (s.drop 2) + 2
  | .literal => Split.literal '\'' (s.drop 1) + 1
  | .escape n => Postgres.escape (s.drop n) + n
  | .quoted => Split.literal '"' (s.drop 1) + 1
  | .dollar n => dollarString n s
  | .identifier => (s.takeWhile identCont).length
  | .number => (s.takeWhile tagCont).length
  | .space => 1
  | .other => 1

def Kind.behind (b : Behind) (s : List Char) : Kind → Behind
  | .escape _ => .escape
  | .lineComment => b
  | .space => if s.head?.any isNewline ∧ b ≠ .other then .escapeNewline else b
  | _ => .other

def lexer (b : Behind) (s : List Char) : ℕ × Behind := ((kind b s).length s, (kind b s).behind b s)

/-- The statements between the semicolons that are tokens. -/
def statements (sql : List Char) : List (List Char) := trimmed (pieces ';' lexer 0 .other [] sql)

/-- Only blanks up to the end of the line, or up to a comment. -/
def endsLine : List Char → Bool
  | [] => true
  | c :: s => c = '\n' || (c = '-' && s.head? = some '-') || (isSpace c && endsLine s)

/-- Nothing in the token at the head of the text that the splitter does not know of: no quote behind a backslash in an
escape string, no marker inside an identifier, no marker that is not ASCII, and no more on the line of a comment that a
carriage return ends. -/
def Kind.Plain (s : List Char) : Kind → Prop
  | .lineComment => endsLine (s.dropWhile fun c => !isNewline c) = true
  | .escape n => escapesQuote (s.drop n) = false
  | .dollar n => tag s = some n
  | .identifier => ∀ k < (s.takeWhile identCont).length, tag (s.drop k) = none
  | _ => True

instance (s : List Char) : ∀ k : Kind, Decidable (k.Plain s)
  | .lineComment => inferInstanceAs (Decidable (endsLine _ = true))
  | .escape n => inferInstanceAs (Decidable (escapesQuote (s.drop n) = false))
  | .dollar n => inferInstanceAs (Decidable (tag s = some n))
  | .identifier => inferInstanceAs (Decidable (∀ k < (s.takeWhile identCont).length, tag (s.drop k) = none))
  | .blockComment | .literal | .quoted | .number | .space | .other => inferInstanceAs (Decidable True)

end Postgres

open Postgres

/-- Every token of the text is plain. -/
def Plain (sql : List Char) : Prop := Every ';' lexer (fun b s => (kind b s).Plain s) 0 .other sql

instance : DecidablePred Plain := fun _ => decidableEvery ';' _ _ _ _ _

/-! ## The tokens of the splitter -/

section Tokens

variable {c : Char} {n : ℕ} {s t r : List Char}

/-- The splitter goes over `t`, before `r`, without a split. -/
abbrev Skips (t r : List Char) : Prop := Passes ';' splitter () t () r

theorem skips_token (hc : c ≠ ';') (h : advance (c :: s) = n) : Skips (c :: s.take (n - 1)) (s.drop (n - 1)) :=
  Passes.token hc (by rw [splitter, h])

theorem advance_lineComment (h : s.head? = some '-') : advance ('-' :: s) = through '\n' ('-' :: s) :=
  if_pos ⟨rfl, h⟩

theorem advance_blockComment (h : s.head? = some '*') : advance ('/' :: s) = blockComment 1 (s.drop 1) + 2 := by
  rw [advance, if_neg (by simp), if_pos ⟨rfl, h⟩]

theorem advance_literal (s : List Char) : advance ('\'' :: s) = literal '\'' s + 1 := by
  rw [advance, if_neg (by simp), if_neg (by simp), if_pos rfl]

theorem advance_quoted (s : List Char) : advance ('"' :: s) = through '"' s + 1 := by
  rw [advance, if_neg (by simp), if_neg (by simp), if_neg (by decide), if_pos rfl]

theorem dollarTag_eq_none {p q : Char → Bool} (h : c ≠ '$') : dollarTag p q (c :: s) = none := by
  unfold dollarTag
  split
  · next heq => exact absurd (List.cons.inj heq).1 h
  · next heq => exact absurd (List.cons.inj heq).1 h
  · rfl

theorem advance_dollar (h : tag ('$' :: s) = some n) : advance ('$' :: s) = dollarString n ('$' :: s) := by
  rw [advance, if_neg (by simp), if_neg (by simp), if_neg (by decide), if_neg (by decide), h]

theorem advance_one (hline : ¬(c = '-' ∧ s.head? = some '-')) (hblock : ¬(c = '/' ∧ s.head? = some '*'))
    (hquote : c ≠ '\'') (hquoted : c ≠ '"') (htag : tag (c :: s) = none) : advance (c :: s) = 1 := by
  rw [advance, if_neg hline, if_neg hblock, if_neg hquote, if_neg hquoted, htag]

theorem skips_one (hc : c ≠ ';') (h : advance (c :: s) = 1) : Skips [c] s := skips_token hc h

theorem skips_run (t r : List Char) (hc : ∀ c ∈ t, c ≠ ';' ∧ c ≠ '-' ∧ c ≠ '/' ∧ c ≠ '\'' ∧ c ≠ '"')
    (htag : ∀ k < t.length, tag ((t ++ r).drop k) = none) : Skips t r := by
  induction t with
  | nil => exact Passes.nil _ _
  | cons c t ih =>
    obtain ⟨hstop, hline, hblock, hquote, hquoted⟩ := hc c List.mem_cons_self
    have hone : advance (c :: (t ++ r)) = 1 :=
      advance_one (fun h => hline h.1) (fun h => hblock h.1) hquote hquoted (htag 0 (Nat.succ_pos _))
    have hrest : Skips t r := by
      apply ih
      · intro d hd
        exact hc d (List.mem_cons_of_mem _ hd)
      · intro k hk
        exact htag (k + 1) (Nat.succ_lt_succ hk)
    exact Passes.append (t := [c]) (skips_one hstop hone) hrest

/-! ## Literals and identifiers in quotes -/

theorem literal_eq_escape (s : List Char) (h : escapesQuote s = false) : literal '\'' s = escape s := by
  induction s using escape.induct with
  | case1 => rfl
  | case2 => rfl
  | case3 d s ih =>
    rw [escapesQuote, if_pos rfl, Bool.or_eq_false_iff] at h
    have hd : d ≠ '\'' := of_decide_eq_false h.1
    rw [escape, if_pos rfl, literal, if_neg (by decide), ← ih h.2]
    rcases s with - | ⟨e, s⟩
    · rfl
    · rw [literal, if_neg hd]
  | case4 s hc ih =>
    rw [escapesQuote, if_neg (by decide), if_pos rfl, if_pos rfl] at h
    rw [literal, if_pos rfl, if_pos rfl, escape, if_neg (by decide), if_pos rfl, if_pos rfl, ih h]
  | case5 d s hd hslash =>
    rw [literal, if_pos rfl, if_neg hd, escape, if_neg hslash, if_pos rfl, if_neg hd]
  | case6 c d s hslash hquote ih =>
    rw [escapesQuote, if_neg hslash, if_neg hquote] at h
    rw [literal, if_neg hquote, escape, if_neg hslash, if_neg hquote, ih h]

/-- A doubled quote ends one identifier of the splitter and begins the next. -/
theorem literal_eq_through (s : List Char) : literal '"' s = through '"' s ∨
    ∃ s', s.drop (through '"' s) = '"' :: s' ∧ literal '"' s = through '"' s + (literal '"' s' + 1) := by
  induction s using literal.induct '"' with
  | case1 => exact Or.inl rfl
  | case2 c =>
    left
    show 1 = if c = '"' then 1 else 1
    rw [ite_self]
  | case3 s ih =>
    right
    refine ⟨s, ?_, ?_⟩
    · rw [through, if_pos rfl, List.drop_one, List.tail_cons]
    · rw [through, if_pos rfl, literal, if_pos rfl, if_pos rfl]
      omega
  | case4 d s hd =>
    left
    rw [through, if_pos rfl, literal, if_pos rfl, if_neg hd]
  | case5 c d s hc ih =>
    rw [through, if_neg hc, literal, if_neg hc, List.drop_succ_cons]
    rcases ih with ih | ⟨s', hdrop, ih⟩
    · exact Or.inl (by rw [ih])
    · refine Or.inr ⟨s', hdrop, ?_⟩
      rw [ih]
      omega

theorem skips_quoted (s : List Char) : Skips ('"' :: s.take (literal '"' s)) (s.drop (literal '"' s)) := by
  induction hn : s.length using Nat.strong_induction_on generalizing s with
  | _ n ih =>
    have hfirst : Skips ('"' :: s.take (through '"' s)) (s.drop (through '"' s)) :=
      skips_token (by decide) (advance_quoted s)
    rcases literal_eq_through s with h | ⟨s', hdrop, h⟩
    · rw [h]
      exact hfirst
    · have hlt : s'.length < n := by
        have hlength : (s.drop (through '"' s)).length = s'.length + 1 := by rw [hdrop, List.length_cons]
        rw [List.length_drop] at hlength
        omega
      have hrest := ih _ hlt s' rfl
      have htake : '"' :: s.take (literal '"' s) =
          ('"' :: s.take (through '"' s)) ++ '"' :: s'.take (literal '"' s') := by
        rw [h, List.take_add, hdrop, List.take_succ_cons, List.cons_append]
      have hdrop' : s.drop (literal '"' s) = s'.drop (literal '"' s') := by
        rw [h, ← List.drop_drop, hdrop, List.drop_succ_cons]
      rw [htake, hdrop']
      refine Passes.append ?_ hrest
      rwa [List.cons_append, List.take_append_drop, ← hdrop]

/-! ## Line comments -/

theorem through_append (h : ∀ d ∈ t, d ≠ c) : through c (t ++ r) = t.length + through c r := by
  induction t with
  | nil => rw [List.nil_append, List.length_nil, Nat.zero_add]
  | cons d t ih =>
    rw [List.cons_append, through, if_neg (h d List.mem_cons_self), ih fun e he => h e (List.mem_cons_of_mem _ he),
      List.length_cons]
    omega

/-- What is left of a line that ends is one comment, or blanks. -/
theorem skips_line (s : List Char) (h : endsLine s = true) :
    Skips (s.take (through '\n' s)) (s.drop (through '\n' s)) := by
  induction s with
  | nil => exact Passes.nil _ _
  | cons c s ih =>
    rw [endsLine, Bool.or_eq_true, Bool.or_eq_true, Bool.and_eq_true, Bool.and_eq_true, decide_eq_true_eq,
      decide_eq_true_eq, decide_eq_true_eq] at h
    by_cases hnewline : c = '\n'
    · subst hnewline
      rw [through, if_pos rfl]
      exact skips_one (by decide) (advance_one (by simp) (by simp) (by decide) (by decide)
        (dollarTag_eq_none (by decide)))
    · rw [through, if_neg hnewline, List.take_succ_cons, List.drop_succ_cons]
      rcases h with (h | ⟨rfl, h⟩) | ⟨hspace, h⟩
      · exact absurd h hnewline
      · have hadvance := advance_lineComment h
        rw [through, if_neg hnewline] at hadvance
        exact skips_token (by decide) hadvance
      · have hone : advance (c :: s) = 1 := by
          apply advance_one
          · rintro ⟨rfl, -⟩
            exact absurd hspace (by decide)
          · rintro ⟨rfl, -⟩
            exact absurd hspace (by decide)
          · rintro rfl
            exact absurd hspace (by decide)
          · rintro rfl
            exact absurd hspace (by decide)
          · apply dollarTag_eq_none
            rintro rfl
            exact absurd hspace (by decide)
        have hstop : c ≠ ';' := by
          rintro rfl
          exact absurd hspace (by decide)
        refine Passes.append (t := [c]) ?_ (ih h)
        rw [List.take_append_drop]
        exact skips_one hstop hone

theorem skips_lineComment (hline : s.head? = some '-')
    (hplain : endsLine (('-' :: s).dropWhile fun c => !isNewline c) = true) :
    Skips (('-' :: s).takeWhile fun c => !isNewline c) (('-' :: s).dropWhile fun c => !isNewline c) := by
  have hrest := skips_line _ hplain
  have hwhole := skips_token (by decide) (advance_lineComment hline)
  have hends : ∀ d ∈ ('-' :: s).takeWhile (fun c => !isNewline c), d ≠ '\n' := by
    rintro d hd rfl
    exact absurd (List.mem_takeWhile_imp hd) (by decide)
  have hsum := through_append hends (r := ('-' :: s).dropWhile fun c => !isNewline c)
  rw [List.takeWhile_append_dropWhile] at hsum
  set t := ('-' :: s).takeWhile fun c => !isNewline c
  set r := ('-' :: s).dropWhile fun c => !isNewline c
  have htr : '-' :: s = t ++ r := List.takeWhile_append_dropWhile.symm
  have hpos : 0 < through '\n' ('-' :: s) := Nat.succ_pos _
  have htake : '-' :: s.take (through '\n' ('-' :: s) - 1) = t ++ r.take (through '\n' r) := by
    rw [← List.take_succ_cons, Nat.sub_add_cancel hpos, hsum, htr, List.take_length_add_append]
  have hdrop : s.drop (through '\n' ('-' :: s) - 1) = r.drop (through '\n' r) := by
    rw [← List.drop_succ_cons (a := '-'), Nat.sub_add_cancel hpos, hsum, htr, List.drop_length_add_append]
  rw [htake, hdrop] at hwhole
  intro piece
  -- from either end the splitter comes to the end of the line
  have h := hwhole piece
  rw [List.append_assoc, List.take_append_drop, ← List.append_assoc] at h
  have h' := hrest (piece ++ t)
  rw [List.take_append_drop] at h'
  rw [h, h']

/-! ## Identifiers and numbers -/

theorem ne_of_identCont (h : identCont c = true) : c ≠ ';' ∧ c ≠ '-' ∧ c ≠ '/' ∧ c ≠ '\'' ∧ c ≠ '"' := by
  refine ⟨?_, ?_, ?_, ?_, ?_⟩ <;>
    rintro rfl <;>
    exact absurd h (by decide)

theorem identStart_of_isLetter (h : isLetter c = true) : identStart c = true := by
  rw [identStart, h, Bool.true_or]

theorem takeWhile_eq_of_imp {p q : Char → Bool} (hpq : ∀ c, p c = true → q c = true) (d : Char) (hd : q d = false)
    (h : (s.dropWhile p).head? = some d) : s.takeWhile q = s.takeWhile p ∧ s.dropWhile q = s.dropWhile p := by
  induction s with
  | nil => exact ⟨rfl, rfl⟩
  | cons c s ih =>
    by_cases hc : p c = true
    · rw [List.dropWhile_cons_of_pos hc] at h
      obtain ⟨htake, hdrop⟩ := ih h
      rw [List.takeWhile_cons_of_pos hc, List.takeWhile_cons_of_pos (hpq c hc), List.dropWhile_cons_of_pos hc,
        List.dropWhile_cons_of_pos (hpq c hc), htake, hdrop]
      exact ⟨rfl, rfl⟩
    · rw [List.dropWhile_cons_of_neg hc, List.head?_cons, Option.some.injEq] at h
      have hqc : ¬q c = true := by rw [h, hd]; exact Bool.false_ne_true
      rw [List.takeWhile_cons_of_neg hc, List.takeWhile_cons_of_neg hqc, List.dropWhile_cons_of_neg hc,
        List.dropWhile_cons_of_neg hqc]
      exact ⟨rfl, rfl⟩

theorem dollarTag_cons (p q : Char → Bool) (d : Char) (s : List Char) : dollarTag p q ('$' :: d :: s) =
    if d = '$' then some 2
    else if p d ∧ (s.dropWhile q).head? = some '$' then some ((s.takeWhile q).length + 3) else none := by
  by_cases hd : d = '$'
  · subst hd
    rfl
  · rw [if_neg hd]
    unfold dollarTag
    split
    · next heq => exact absurd (List.cons.inj (List.cons.inj heq).2).1 hd
    · next heq =>
      obtain ⟨rfl, rfl⟩ := List.cons.inj (List.cons.inj heq).2
      rfl
    · next _ hne => exact absurd rfl (hne d s)

/-- Every marker of the splitter is one of PostgreSQL. -/
theorem dollarTag_of_tag (s : List Char) (h : tag s = some n) : dollarTag identStart tagCont s = some n := by
  rcases s with - | ⟨c, - | ⟨d, s⟩⟩
  · exact absurd h (by simp [tag, dollarTag])
  · exact absurd h (by simp [tag, dollarTag])
  · by_cases hc : c = '$'
    · subst hc
      rw [tag, dollarTag_cons] at h
      rw [dollarTag_cons]
      by_cases hd : d = '$'
      · rwa [if_pos hd] at h ⊢
      · rw [if_neg hd] at h ⊢
        split_ifs at h with hmarker
        have hwhile := takeWhile_eq_of_imp (q := tagCont) (fun e he => by
          rw [tagCont, identStart]
          rcases Bool.or_eq_true_iff.1 he with he | he <;> rw [he] <;> simp) '$' (by decide) hmarker.2
        rw [hwhile.1, hwhile.2, if_pos ⟨identStart_of_isLetter hmarker.1, hmarker.2⟩]
        exact h
    · rw [tag, dollarTag_eq_none hc] at h
      exact absurd h (by simp)

theorem tag_eq_none (h : dollarTag identStart tagCont s = none) : tag s = none := by
  rw [Option.eq_none_iff_forall_ne_some] at h ⊢
  intro n hn
  exact h n (dollarTag_of_tag s hn)

/-- A number has no dollar sign in it. -/
theorem tag_drop_number (hk : n < (s.takeWhile tagCont).length) : tag (s.drop n) = none := by
  have hget : (s.takeWhile tagCont)[n] ∈ s.takeWhile tagCont := List.getElem_mem hk
  have hlt : n < s.length := hk.trans_le (List.takeWhile_prefix tagCont).length_le
  rw [List.drop_eq_getElem_cons hlt]
  apply dollarTag_eq_none
  intro heq
  have hsame : (s.takeWhile tagCont)[n] = s[n] := (List.takeWhile_prefix tagCont).getElem hk
  have htrue := List.mem_takeWhile_imp hget
  rw [hsame, heq] at htrue
  exact absurd htrue (by decide)

theorem skips_takeWhile {p : Char → Bool} (hp : ∀ d, p d = true → identCont d = true)
    (htag : ∀ k < (s.takeWhile p).length, tag (s.drop k) = none) : Skips (s.takeWhile p) (s.dropWhile p) := by
  apply skips_run
  · intro d hd
    exact ne_of_identCont (hp d (List.mem_takeWhile_imp hd))
  · intro k hk
    rw [List.takeWhile_append_dropWhile]
    exact htag k hk

theorem cons_take_takeWhile {p : Char → Bool} (hp : p c = true) :
    c :: s.take (((c :: s).takeWhile p).length - 1) = (c :: s).takeWhile p ∧
      s.drop (((c :: s).takeWhile p).length - 1) = (c :: s).dropWhile p := by
  rw [List.takeWhile_cons_of_pos hp, List.dropWhile_cons_of_pos hp, List.length_cons, Nat.add_sub_cancel]
  have htake : s.take (s.takeWhile p).length = s.takeWhile p :=
    (List.prefix_iff_eq_take.1 (List.takeWhile_prefix p)).symm
  refine ⟨by rw [htake], ?_⟩
  have hwhole : s.take (s.takeWhile p).length ++ s.drop (s.takeWhile p).length = s.takeWhile p ++ s.dropWhile p := by
    rw [List.take_append_drop, List.takeWhile_append_dropWhile]
  rw [htake] at hwhole
  exact List.append_cancel_left hwhole

end Tokens

/-! ## Whole texts -/

/-- A token of PostgreSQL is passed over by the splitter. -/
theorem skips_kind {b : Behind} {c : Char} {s : List Char} (hc : c ≠ ';') (h : (kind b (c :: s)).Plain (c :: s)) :
    Skips (c :: s.take ((kind b (c :: s)).length (c :: s) - 1)) (s.drop ((kind b (c :: s)).length (c :: s) - 1)) := by
  rw [kind] at h ⊢
  by_cases hline : c = '-' ∧ s.head? = some '-'
  · rw [if_pos hline] at h ⊢
    obtain ⟨rfl, hline⟩ := hline
    obtain ⟨htake, hdrop⟩ := cons_take_takeWhile (s := s) (p := fun c => !isNewline c) (c := '-') (by decide)
    rw [Kind.length, htake, hdrop]
    exact skips_lineComment hline h
  rw [if_neg hline] at h ⊢
  by_cases hblock : c = '/' ∧ s.head? = some '*'
  · rw [if_pos hblock]
    obtain ⟨rfl, hblock⟩ := hblock
    exact skips_token hc (advance_blockComment hblock)
  rw [if_neg hblock] at h ⊢
  by_cases hquote : c = '\''
  · subst hquote
    rw [if_pos rfl] at h ⊢
    by_cases hb : b = .escapeNewline
    · rw [if_pos hb] at h ⊢
      exact skips_token hc (by rw [advance_literal, literal_eq_escape s h]; rfl)
    · rw [if_neg hb]
      exact skips_token hc (advance_literal s)
  rw [if_neg hquote] at h ⊢
  by_cases hescape : (c = 'e' ∨ c = 'E') ∧ s.head? = some '\''
  · rw [if_pos hescape] at h ⊢
    obtain ⟨hletter, hopening⟩ := hescape
    rcases s with - | ⟨d, s⟩
    · exact absurd hopening (by simp)
    obtain rfl : d = '\'' := Option.some.inj hopening
    have hne : c ≠ '"' ∧ c ≠ '$' := by
      rcases hletter with rfl | rfl <;> decide
    have hone : advance (c :: '\'' :: s) = 1 :=
      advance_one hline hblock hquote hne.1 (dollarTag_eq_none hne.2)
    have hliteral : advance ('\'' :: s) = escape s + 1 := by rw [advance_literal, literal_eq_escape s h]
    have hrest : Skips ('\'' :: s.take (escape s)) (s.drop (escape s)) := skips_token (by decide) hliteral
    show Skips ([c] ++ '\'' :: s.take (escape s)) (s.drop (escape s))
    refine Passes.append ?_ hrest
    rw [List.cons_append, List.take_append_drop]
    exact skips_one hc hone
  rw [if_neg hescape] at h ⊢
  by_cases hquoted : c = '"'
  · subst hquoted
    rw [if_pos rfl]
    exact skips_quoted s
  rw [if_neg hquoted] at h ⊢
  rcases hdollar : dollarTag identStart tagCont (c :: s) with - | n
  · rw [hdollar] at h
    have hone : advance (c :: s) = 1 := advance_one hline hblock hquote hquoted (tag_eq_none hdollar)
    split_ifs at h ⊢ with hstart hdigit hspace
    · obtain ⟨htake, hdrop⟩ := cons_take_takeWhile (s := s) (p := identCont) (c := c) (by
        rw [identCont, tagCont, hstart, Bool.true_or, Bool.true_or])
      rw [Kind.length, htake, hdrop]
      exact skips_takeWhile (fun _ hd => hd) h
    · obtain ⟨htake, hdrop⟩ := cons_take_takeWhile (s := s) (p := tagCont) (c := c) (by
        rw [tagCont, hdigit, Bool.or_true])
      rw [Kind.length, htake, hdrop]
      exact skips_takeWhile (fun d hd => by rw [identCont, hd, Bool.true_or]) fun k hk => tag_drop_number hk
    · exact skips_one hc hone
    · exact skips_one hc hone
  · rw [hdollar] at h
    have hc : c = '$' := by
      by_contra hne
      rw [dollarTag_eq_none hne] at hdollar
      exact absurd hdollar (by simp)
    subst hc
    exact skips_token hc (advance_dollar h)

/-- **Plain texts.**  Where every token is plain, the splitter splits at the semicolons that are tokens, and at no
others. -/
theorem splitStatements_eq {sql : List Char} (h : Plain sql) :
    pieces ';' splitter 0 () [] sql = pieces ';' lexer 0 .other [] sql ∧ splitStatements sql = statements sql := by
  have hpieces : pieces ';' splitter 0 () [] sql = pieces ';' lexer 0 .other [] sql := by
    symm
    refine pieces_eq (R := fun _ _ => True) (P := fun b s => (kind b s).Plain s) ?_ ?_ _ _ _ _ trivial h
    · intro _ _ _ _
      trivial
    · intro b _ c s _ hc hplain
      exact ⟨(), trivial, skips_kind hc hplain⟩
  exact ⟨hpieces, congrArg trimmed hpieces⟩

theorem splitStatements_eq_block :
    splitStatements "DO $s$ ';a $s$; -- ;\n B".toList = statements "DO $s$ ';a $s$; -- ;\n B".toList ∧
      (splitStatements "DO $s$ ';a $s$; -- ;\n B".toList).length = 2 :=
  ⟨(splitStatements_eq (by decide +kernel)).2, by decide +kernel⟩

/-- A quote behind a backslash ends the string for the splitter. -/
theorem not_split_behind_escape : splitStatements "E'\\'';a".toList = ["E'\\'';a".toList] ∧
    statements "E'\\'';a".toList = ["E'\\''".toList, "a".toList] := by
  decide +kernel

end DTwin.Db.Split
