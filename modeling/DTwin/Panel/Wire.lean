import DTwin.Lib.Utf16

/-!
# DTwin.Panel.Wire — the copilot's answer, line by line

`apps/web/lib/copilot-panel/wire.ts`: `LineSplitter`, and `readEvents`, which hands on the events of its lines.

A text comes in pieces and its lines are to be those of the whole text, `lines`.  After a push the splitter stands for
the line the text so far ends in (`Reads`): it holds that line, or has dropped it for its length.  It drops one line
too many, the line of `maxChars` characters whose carriage return was the last of a piece (`Cut`), and
`emitted_eq_iff` says that the lines are right exactly where no piece ends so.
-/

namespace DTwin.Panel

open Utf16

/-! ## The code -/

structure LineSplitter where
  carry : Utf16
  discarding : Bool

def LineSplitter.init : LineSplitter := ⟨[], false⟩

/-- A part less the `\r` at its end. -/
def dropReturn (part : Utf16) : Utf16 := if part.getLast? = some carriageReturn then part.dropLast else part

/-- The body of the loop over the parts: whether a line is being discarded, and the lines so far. -/
def LineSplitter.part (maxChars : ℕ) (st : Bool × List Utf16) (part : Utf16) : Bool × List Utf16 :=
  if st.1 then (false, st.2)
  else
    let line := dropReturn part
    (false, if trim line ≠ [] ∧ line.length ≤ maxChars then st.2 ++ [line] else st.2)

def LineSplitter.push (maxChars : ℕ) (s : LineSplitter) (text : Utf16) : LineSplitter × List Utf16 :=
  let parts := (s.carry ++ text).splitOn newline
  let carry := parts.getLast?.getD []
  let (discarding, lines) := parts.dropLast.foldl (LineSplitter.part maxChars) (s.discarding, [])
  if maxChars < carry.length then (⟨[], true⟩, lines) else (⟨carry, discarding⟩, lines)

/-- `end`, which leaves the splitter as `init`. -/
def LineSplitter.finish (s : LineSplitter) : List Utf16 :=
  let last := if s.discarding then [] else dropReturn s.carry
  if trim last = [] then [] else [last]

/-- The lines of the pushes and of the end. -/
def LineSplitter.pushAll (maxChars : ℕ) : LineSplitter → List Utf16 → List Utf16
  | s, [] => s.finish
  | s, piece :: pieces => (s.push maxChars piece).2 ++ pushAll maxChars (s.push maxChars piece).1 pieces

def emitted (maxChars : ℕ) (pieces : List Utf16) : List Utf16 := LineSplitter.init.pushAll maxChars pieces

inductive StreamEnd
  | turn
  | error
  | lost
deriving DecidableEq

/-- What `readEvents` has handed on, and how the stream will have ended. -/
structure Reading (ε : Type*) where
  ended : StreamEnd
  batches : List (List ε)

section Events

variable {ε : Type*} (parse : Utf16 → Option ε) (kind : ε → Option StreamEnd)

/-- The end after one more event; `kind` is `turn` or `error` of the events that end a run. -/
def StreamEnd.after (ended : StreamEnd) (e : ε) : StreamEnd :=
  if kind e = some .turn then .turn
  else if kind e = some .error ∧ ended ≠ .turn then .error
  else ended

def hand (r : Reading ε) (texts : List Utf16) : Reading ε :=
  let events := texts.filterMap parse
  ⟨events.foldl (StreamEnd.after kind) r.ended, if events.isEmpty then r.batches else r.batches ++ [events]⟩

/-- `readEvents` of a body that is decoded into `chunks`; `flush` is what the decoder still has at the end of the body,
and is missing where the connection went. -/
def readEvents (maxChars : ℕ) (chunks : List Utf16) (flush : Option Utf16) : Reading ε :=
  let (s, r) := chunks.foldl
    (fun sr chunk => ((sr.1.push maxChars chunk).1, hand parse kind sr.2 (sr.1.push maxChars chunk).2))
    (LineSplitter.init, ⟨.lost, []⟩)
  match flush with
  | some text => hand parse kind (hand parse kind r (s.push maxChars text).2) (s.push maxChars text).1.finish
  | none => hand parse kind r s.finish

end Events

/-! ## The lines of a text -/

/-- What is read of a line. -/
def line? (maxChars : ℕ) (raw : Utf16) : Option Utf16 :=
  if trim (dropReturn raw) ≠ [] ∧ (dropReturn raw).length ≤ maxChars then some (dropReturn raw) else none

/-- The lines of a text, the unterminated one with them. -/
def lines (maxChars : ℕ) (text : Utf16) : List Utf16 := (text.splitOn newline).filterMap (line? maxChars)

/-- A line that its carriage return makes too long. -/
def AtBound (maxChars : ℕ) (raw : Utf16) : Prop :=
  ∃ x, raw = x ++ [carriageReturn] ∧ x.length = maxChars ∧ trim x ≠ []

/-- The text so far ends in a line at the bound, and that is all of the line. -/
def Cut (maxChars : ℕ) (read after : Utf16) : Prop :=
  AtBound maxChars (rest newline read) ∧ (after = [] ∨ after.head? = some newline)

variable {maxChars : ℕ} {s : LineSplitter} {raw piece : Utf16} {pieces : List Utf16}

/-! ## A line and the bound -/

theorem dropReturn_return (x : Utf16) : dropReturn (x ++ [carriageReturn]) = x := by
  rw [dropReturn, if_pos List.getLast?_concat, List.dropLast_concat]

theorem length_dropReturn_le (raw : Utf16) : (dropReturn raw).length ≤ raw.length := by
  unfold dropReturn
  split_ifs
  · rw [List.length_dropLast]
    omega
  · exact Nat.le_refl _

/-- A line within the bound is read unless it is blank. -/
theorem line?_of_le (hraw : raw.length ≤ maxChars) :
    line? maxChars raw = if trim (dropReturn raw) = [] then none else some (dropReturn raw) := by
  have hle := Nat.le_trans (length_dropReturn_le raw) hraw
  by_cases hblank : trim (dropReturn raw) = []
  · rw [line?, if_neg fun h => h.1 hblank, if_pos hblank]
  · rw [line?, if_pos ⟨hblank, hle⟩, if_neg hblank]

/-- A line above the bound is read exactly if its carriage return makes it so long. -/
theorem line?_of_lt (hraw : maxChars < raw.length) : line? maxChars raw = none ↔ ¬ AtBound maxChars raw := by
  constructor
  · rintro hnone ⟨x, rfl, hx, hblank⟩
    rw [line?, dropReturn_return, if_pos ⟨hblank, Nat.le_of_eq hx⟩] at hnone
    cases hnone
  · intro hbound
    refine if_neg ?_
    rintro ⟨hblank, hle⟩
    by_cases hlast : raw.getLast? = some carriageReturn
    · obtain ⟨x, rfl⟩ := List.getLast?_eq_some_iff.mp hlast
      rw [dropReturn_return] at hblank hle
      rw [List.length_append, List.length_singleton] at hraw
      exact hbound ⟨x, rfl, by omega, hblank⟩
    · rw [dropReturn, if_neg hlast] at hle
      omega

theorem AtBound.length (h : AtBound maxChars raw) : raw.length = maxChars + 1 := by
  obtain ⟨x, rfl, hx, -⟩ := h
  rw [List.length_append, List.length_singleton, hx]

/-! ## A push -/

/-- Where the fold over the parts starts without discarding, it gives their lines. -/
theorem foldl_part (parts acc : List Utf16) :
    parts.foldl (LineSplitter.part maxChars) (false, acc) = (false, acc ++ parts.filterMap (line? maxChars)) := by
  induction parts generalizing acc with
  | nil => rw [List.foldl_nil, List.filterMap_nil, List.append_nil]
  | cons part parts ih =>
    have hpart : LineSplitter.part maxChars (false, acc) part = (false, acc ++ (line? maxChars part).toList) := by
      by_cases hline : trim (dropReturn part) ≠ [] ∧ (dropReturn part).length ≤ maxChars
      · simp [LineSplitter.part, line?, hline]
      · simp only [LineSplitter.part, line?, if_neg hline, Bool.false_eq_true, if_false, Option.toList_none,
          List.append_nil]
    rw [List.foldl_cons, hpart, ih, List.append_assoc]
    cases hline : line? maxChars part with
    | none => rw [List.filterMap_cons_none hline, Option.toList_none, List.nil_append]
    | some line => rw [List.filterMap_cons_some hline, Option.toList_some, List.singleton_append]

/-- The splitter has read a text that ends in the line `l`. -/
structure Reads (maxChars : ℕ) (s : LineSplitter) (l : Utf16) : Prop where
  discarding : s.discarding = true ↔ maxChars < l.length
  carry : s.discarding = false → s.carry = l
  held : newline ∉ s.carry
  line : newline ∉ l

theorem Reads.init : Reads maxChars .init [] :=
  ⟨⟨fun h => absurd h Bool.false_ne_true, fun h => absurd h (Nat.not_lt_zero _)⟩, fun _ => rfl, List.not_mem_nil,
    List.not_mem_nil⟩

variable {l : Utf16}

/-- A piece without a newline is more of the line. -/
theorem Reads.push_rest (h : Reads maxChars s l) (hpiece : newline ∉ piece) :
    (s.push maxChars piece).2 = [] ∧ Reads maxChars (s.push maxChars piece).1 (l ++ piece) := by
  have hheld : newline ∉ s.carry ++ piece := fun hm => (List.mem_append.mp hm).elim h.held hpiece
  have hline : newline ∉ l ++ piece := fun hm => (List.mem_append.mp hm).elim h.line hpiece
  have hpush : s.push maxChars piece =
      if maxChars < (s.carry ++ piece).length then (⟨[], true⟩, []) else (⟨s.carry ++ piece, s.discarding⟩, []) := by
    rw [LineSplitter.push, List.splitOn_eq_singleton hheld]
    rfl
  have hlen : (l ++ piece).length = l.length + piece.length := List.length_append
  rw [hpush]
  by_cases hlong : maxChars < (s.carry ++ piece).length
  · rw [if_pos hlong]
    refine ⟨rfl, ⟨fun _ => ?_, fun _ => rfl⟩, fun hd => (Bool.noConfusion hd), List.not_mem_nil, hline⟩
    cases hd : s.discarding with
    | false => rwa [h.carry hd] at hlong
    | true =>
      have := h.discarding.mp hd
      omega
  · rw [if_neg hlong]
    refine ⟨rfl, ⟨fun hd => ?_, fun hl => ?_⟩, fun hd => congrArg (· ++ piece) (h.carry hd), hheld, hline⟩
    · have := h.discarding.mp hd
      omega
    · cases hd : s.discarding with
      | true => rfl
      | false => exact absurd (h.carry hd ▸ hl) hlong

/-- A piece with a newline ends the line, and its other lines follow. -/
theorem Reads.push_line (h : Reads maxChars s l) {p q : Utf16} (hp : newline ∉ p) :
    (s.push maxChars (p ++ newline :: q)).2 =
        (if maxChars < l.length then [] else (line? maxChars (l ++ p)).toList) ++
          (whole newline q).filterMap (line? maxChars) ∧
      Reads maxChars (s.push maxChars (p ++ newline :: q)).1 (rest newline q) := by
  have hheld : newline ∉ s.carry ++ p := fun hm => (List.mem_append.mp hm).elim h.held hp
  have hparts : (s.carry ++ (p ++ newline :: q)).splitOn newline =
      (s.carry ++ p) :: whole newline q ++ [rest newline q] := by
    rw [← List.append_assoc, List.splitOn_append_cons_self_of_not_mem hheld, splitOn_eq q, List.cons_append]
  have hfold : ((s.carry ++ p) :: whole newline q).foldl (LineSplitter.part maxChars) (s.discarding, []) =
      (false, (if maxChars < l.length then [] else (line? maxChars (l ++ p)).toList) ++
        (whole newline q).filterMap (line? maxChars)) := by
    cases hd : s.discarding with
    | true =>
      rw [List.foldl_cons, if_pos (h.discarding.mp hd)]
      exact foldl_part _ _
    | false =>
      have hshort : ¬ maxChars < l.length := fun hl => by
        have := h.discarding.mpr hl
        rw [hd] at this
        cases this
      rw [foldl_part, if_neg hshort, h.carry hd]
      cases hline : line? maxChars (l ++ p) with
      | none => rw [List.filterMap_cons_none hline, Option.toList_none]
      | some line => rw [List.filterMap_cons_some hline, Option.toList_some, List.nil_append, List.singleton_append]
  have hrest : newline ∉ rest newline q := stop_not_mem_rest q
  have hpush : s.push maxChars (p ++ newline :: q) =
      (if maxChars < (rest newline q).length then ⟨[], true⟩ else ⟨rest newline q, false⟩,
        (if maxChars < l.length then [] else (line? maxChars (l ++ p)).toList) ++
          (whole newline q).filterMap (line? maxChars)) := by
    rw [LineSplitter.push, hparts, List.dropLast_concat, hfold, List.getLast?_concat, Option.getD_some]
    exact (apply_ite (Prod.mk · _) _ _ _).symm
  rw [hpush]
  refine ⟨rfl, ?_⟩
  by_cases hlong : maxChars < (rest newline q).length
  · rw [if_pos hlong]
    exact ⟨⟨fun _ => hlong, fun _ => rfl⟩, fun hd => Bool.noConfusion hd, List.not_mem_nil, hrest⟩
  · rw [if_neg hlong]
    exact ⟨⟨fun hd => Bool.noConfusion hd, fun hl => absurd hl hlong⟩, fun _ => rfl, hrest, hrest⟩

/-! ## All pushes -/

/-- A line that a newline ends, and the lines after it. -/
theorem lines_line {p : Utf16} (hp : newline ∉ p) (q : Utf16) :
    lines maxChars (p ++ newline :: q) = (line? maxChars p).toList ++ lines maxChars q := by
  rw [lines, List.splitOn_append_cons_self_of_not_mem hp]
  cases hline : line? maxChars p with
  | none => rw [List.filterMap_cons_none hline, Option.toList_none, List.nil_append, lines]
  | some line => rw [List.filterMap_cons_some hline, Option.toList_some, List.singleton_append, lines]

theorem lines_rest (hraw : newline ∉ raw) : lines maxChars raw = (line? maxChars raw).toList := by
  rw [lines, List.splitOn_eq_singleton hraw]
  cases hline : line? maxChars raw with
  | none => rw [List.filterMap_cons_none hline, Option.toList_none, List.filterMap_nil]
  | some line => rw [List.filterMap_cons_some hline, Option.toList_some, List.filterMap_nil]

theorem lines_append (q t : Utf16) :
    lines maxChars (q ++ t) =
      (whole newline q).filterMap (line? maxChars) ++ lines maxChars (rest newline q ++ t) := by
  rw [lines, splitOn_append, List.filterMap_append, lines]

/-- Some piece, after what is read, ends in a cut. -/
def Loses (maxChars : ℕ) (read : Utf16) (pieces : List Utf16) : Prop :=
  ∃ before after, pieces = before ++ after ∧ Cut maxChars (read ++ before.flatten) after.flatten

theorem cut_rest (q t after : Utf16) :
    Cut maxChars (q ++ t) after ↔ Cut maxChars (rest newline q ++ t) after := by
  rw [Cut, Cut, rest_append]

theorem loses_cons {read : Utf16} :
    Loses maxChars read (piece :: pieces) ↔
      Cut maxChars read (piece ++ pieces.flatten) ∨ Loses maxChars (read ++ piece) pieces := by
  constructor
  · rintro ⟨before, after, heq, hcut⟩
    rcases List.cons_eq_append_iff.mp heq with ⟨rfl, rfl⟩ | ⟨before, rfl, rfl⟩
    · rw [List.flatten_nil, List.append_nil] at hcut
      exact Or.inl hcut
    · rw [List.flatten_cons, ← List.append_assoc] at hcut
      exact Or.inr ⟨before, after, rfl, hcut⟩
  · rintro (hcut | ⟨before, after, rfl, hcut⟩)
    · refine ⟨[], piece :: pieces, rfl, ?_⟩
      rwa [List.flatten_nil, List.append_nil]
    · refine ⟨piece :: before, after, rfl, ?_⟩
      rwa [List.flatten_cons, ← List.append_assoc]

theorem loses_rest (read : Utf16) :
    Loses maxChars read pieces ↔ Loses maxChars (rest newline read) pieces :=
  exists_congr fun before => exists_congr fun after => and_congr_right fun _ =>
    cut_rest read before.flatten after.flatten

theorem loses_nil (hl : newline ∉ l) : Loses maxChars l [] ↔ AtBound maxChars l := by
  constructor
  · rintro ⟨before, after, heq, hcut⟩
    obtain ⟨rfl, rfl⟩ := List.append_eq_nil_iff.mp heq.symm
    rw [List.flatten_nil, List.append_nil] at hcut
    have hbound := hcut.1
    rwa [rest_of_not_mem hl] at hbound
  · intro hbound
    refine ⟨[], [], rfl, ?_, Or.inl rfl⟩
    rwa [List.flatten_nil, List.append_nil, rest_of_not_mem hl]

/-- Before a piece without a newline there is a cut only if the piece is empty. -/
theorem loses_cons_rest (hpiece : newline ∉ piece) :
    Loses maxChars l (piece :: pieces) ↔ Loses maxChars (l ++ piece) pieces := by
  rw [loses_cons]
  refine ⟨fun h => h.elim (fun hcut => ?_) id, Or.inr⟩
  rcases piece with - | ⟨u, piece⟩
  · rw [List.nil_append] at hcut
    refine ⟨[], pieces, rfl, ?_⟩
    rwa [List.flatten_nil, List.append_nil, List.append_nil]
  · rcases hcut.2 with hnil | hhead
    · cases hnil
    · exact absurd (Option.some.inj hhead ▸ List.mem_cons_self) hpiece

/-- Before a newline there is a cut where the newline is all that is left of the line. -/
theorem loses_cons_line (hl : newline ∉ l) {p : Utf16} (hp : newline ∉ p) (q : Utf16) :
    Loses maxChars l ((p ++ newline :: q) :: pieces) ↔
      (AtBound maxChars l ∧ p = []) ∨ Loses maxChars (rest newline q) pieces := by
  have hlp : newline ∉ l ++ p := fun hm => (List.mem_append.mp hm).elim hl hp
  rw [loses_cons, loses_rest (l ++ (p ++ newline :: q)), ← List.append_assoc, rest_cons hlp, Cut, rest_of_not_mem hl]
  refine or_congr_left (and_congr_right fun _ => ?_)
  rcases p with - | ⟨u, p⟩
  · exact ⟨fun _ => rfl, fun _ => Or.inr rfl⟩
  · refine ⟨fun h => ?_, fun h => by cases h⟩
    rcases h with hnil | hhead
    · cases hnil
    · exact absurd (Option.some.inj hhead ▸ List.mem_cons_self) hp

theorem Reads.finish (h : Reads maxChars s l) :
    s.finish = if maxChars < l.length then [] else (line? maxChars l).toList := by
  unfold LineSplitter.finish
  cases hd : s.discarding with
  | true =>
    rw [if_pos (h.discarding.mp hd)]
    exact if_pos rfl
  | false =>
    have hshort : ¬ maxChars < l.length := fun hl => by
      have := h.discarding.mpr hl
      rw [hd] at this
      cases this
    rw [if_neg hshort, line?_of_le (Nat.le_of_not_lt hshort), h.carry hd]
    exact (apply_ite Option.toList (trim (dropReturn l) = []) none (some (dropReturn l))).symm

/-- What is read of the first line, where there is a first line. -/
def first (maxChars : ℕ) (l p : Utf16) : List Utf16 :=
  if maxChars < l.length then [] else (line? maxChars (l ++ p)).toList

theorem first_sublist (l p : Utf16) : (first maxChars l p).Sublist (line? maxChars (l ++ p)).toList := by
  unfold first
  split_ifs
  · exact List.nil_sublist _
  · exact List.Sublist.refl _

/-- The first line is missed exactly if it was at the bound when it was cut. -/
theorem first_eq_iff (l p : Utf16) :
    first maxChars l p = (line? maxChars (l ++ p)).toList ↔ ¬ (AtBound maxChars l ∧ p = []) := by
  unfold first
  by_cases hlong : maxChars < l.length
  · have hline : maxChars < (l ++ p).length := by
      rw [List.length_append]
      omega
    have hnone : [] = (line? maxChars (l ++ p)).toList ↔ ¬ AtBound maxChars (l ++ p) := by
      rw [← line?_of_lt hline, eq_comm, Option.toList_eq_nil_iff]
    rw [if_pos hlong, hnone, not_iff_not]
    constructor
    · intro hbound
      have hp : p = [] := by
        refine List.length_eq_zero_iff.mp ?_
        have hlen := hbound.length
        rw [List.length_append] at hlen
        omega
      subst hp
      exact ⟨List.append_nil l ▸ hbound, rfl⟩
    · rintro ⟨hbound, rfl⟩
      rwa [List.append_nil]
  · rw [if_neg hlong]
    refine iff_of_true rfl ?_
    rintro ⟨hbound, -⟩
    exact hlong (hbound.length ▸ Nat.lt_succ_self _)

/-- Sublists that together are the whole are each the whole of theirs. -/
theorem append_eq_iff {α : Type*} {a a' b b' : List α} (ha : a.Sublist a') (hb : b.Sublist b') :
    a ++ b = a' ++ b' ↔ a = a' ∧ b = b' := by
  constructor
  · intro heq
    have hlen := congrArg List.length heq
    rw [List.length_append, List.length_append] at hlen
    have hle := ha.length_le
    have hle' := hb.length_le
    exact List.append_inj heq (by omega)
  · rintro ⟨rfl, rfl⟩
    rfl

/-- The splitter gives lines of the text, and all of them exactly if no piece ends in a cut. -/
theorem Reads.pushAll (h : Reads maxChars s l) :
    (s.pushAll maxChars pieces).Sublist (lines maxChars (l ++ pieces.flatten)) ∧
      (s.pushAll maxChars pieces = lines maxChars (l ++ pieces.flatten) ↔ ¬ Loses maxChars l pieces) := by
  induction pieces generalizing s l with
  | nil =>
    have hfinish : s.finish = first maxChars l [] := by
      rw [h.finish, first, List.append_nil]
    have hlines : lines maxChars (l ++ [].flatten) = (line? maxChars (l ++ [])).toList := by
      rw [List.flatten_nil, List.append_nil, lines_rest h.line]
    rw [LineSplitter.pushAll, hfinish, hlines, loses_nil h.line, first_eq_iff]
    exact ⟨first_sublist l [], by rw [and_iff_left rfl]⟩
  | cons piece pieces ih =>
    rw [LineSplitter.pushAll, List.flatten_cons]
    rcases stop_cases newline piece with hpiece | ⟨p, q, hp, rfl⟩
    · obtain ⟨hnil, hreads⟩ := h.push_rest hpiece
      rw [hnil, List.nil_append, ← List.append_assoc, loses_cons_rest hpiece]
      exact ih hreads
    · obtain ⟨hpush, hreads⟩ := h.push_line hp (q := q)
      obtain ⟨hsub, heq⟩ := ih hreads
      have hlp : newline ∉ l ++ p := fun hm => (List.mem_append.mp hm).elim h.line hp
      have hlines : lines maxChars (l ++ (p ++ newline :: q ++ pieces.flatten)) =
          (line? maxChars (l ++ p)).toList ++ ((whole newline q).filterMap (line? maxChars) ++
            lines maxChars (rest newline q ++ pieces.flatten)) := by
        rw [← lines_append, ← lines_line hlp]
        simp only [List.append_assoc, List.cons_append]
      rw [hpush, hlines, ← first, List.append_assoc, loses_cons_line h.line hp, not_or, ← first_eq_iff, ← heq]
      refine ⟨(first_sublist l p).append ((List.Sublist.refl _).append hsub), ?_⟩
      rw [append_eq_iff (first_sublist l p) ((List.Sublist.refl _).append hsub), List.append_right_inj]

/-- **`LineSplitter`.**  The lines over all pushes and the end are those of the uncut text, and these are its lines
within the bound, exactly if no piece ends between the carriage return of a line at the bound and what ends it. -/
theorem emitted_eq_iff (maxChars : ℕ) (pieces : List Utf16) :
    (emitted maxChars pieces = emitted maxChars [pieces.flatten] ∧
        emitted maxChars pieces = lines maxChars pieces.flatten) ↔
      ∀ before after, pieces = before ++ after → ¬ Cut maxChars before.flatten after.flatten := by
  have hall : ∀ pieces, emitted maxChars pieces = lines maxChars ([] ++ pieces.flatten) ↔ ¬ Loses maxChars [] pieces :=
    fun _ => Reads.init.pushAll.2
  have hpieces := hall pieces
  have hone := hall [pieces.flatten]
  have hno : (∀ before after, pieces = before ++ after → ¬ Cut maxChars before.flatten after.flatten) ↔
      ¬ Loses maxChars [] pieces := by
    constructor
    · rintro hcut ⟨before, after, heq, hc⟩
      exact hcut before after heq hc
    · rintro hlose before after heq hc
      exact hlose ⟨before, after, heq, hc⟩
  rw [List.nil_append] at hpieces
  rw [List.nil_append, List.flatten_singleton] at hone
  rw [hno, ← hpieces]
  refine ⟨And.right, fun h => ⟨h.trans (hone.mpr ?_).symm, h⟩⟩
  -- the whole text in one piece ends where the last of the pieces does
  have hlose := hpieces.mp h
  rintro ⟨before, after, heq, hc⟩
  refine hlose ?_
  rcases List.cons_eq_append_iff.mp heq with ⟨rfl, rfl⟩ | ⟨before, rfl, hnil⟩
  · obtain ⟨x, hx, -, -⟩ := hc.1
    rw [List.flatten_nil, List.append_nil, rest_of_not_mem List.not_mem_nil] at hx
    exact absurd hx.symm (List.append_ne_nil_of_right_ne_nil _ (List.cons_ne_nil _ _))
  · obtain ⟨rfl, rfl⟩ := List.append_eq_nil_iff.mp hnil.symm
    refine ⟨pieces, [], (List.append_nil _).symm, ?_⟩
    rwa [List.flatten_singleton] at hc

theorem cut_at_return :
    ¬ (emitted 1 [[0x61, carriageReturn], [newline]] = emitted 1 [[[0x61, carriageReturn], [newline]].flatten] ∧
      emitted 1 [[0x61, carriageReturn], [newline]] = lines 1 [[0x61, carriageReturn], [newline]].flatten) := by
  decide

/-! ## The events -/

section Events

variable {ε : Type*} {parse : Utf16 → Option ε} {kind : ε → Option StreamEnd}

theorem flatten_hand (r : Reading ε) (texts : List Utf16) :
    (hand parse kind r texts).batches.flatten = r.batches.flatten ++ texts.filterMap parse := by
  unfold hand
  cases texts.filterMap parse with
  | nil => exact (List.append_nil _).symm
  | cons e events => exact (List.flatten_append).trans (congrArg _ List.flatten_singleton)

theorem ended_hand (r : Reading ε) (texts : List Utf16) :
    (hand parse kind r texts).ended = (texts.filterMap parse).foldl (StreamEnd.after kind) r.ended := rfl

/-- **`readEvents`.**  What it hands on are the events of the lines, in order, and they say how the stream ended. -/
theorem readEvents_spec (maxChars : ℕ) (chunks : List Utf16) (flush : Option Utf16) :
    (readEvents parse kind maxChars chunks flush).batches.flatten =
        (emitted maxChars (chunks ++ flush.toList)).filterMap parse ∧
      (readEvents parse kind maxChars chunks flush).ended =
        ((emitted maxChars (chunks ++ flush.toList)).filterMap parse).foldl (StreamEnd.after kind) .lost := by
  -- the splitter and the reading may be any where the reading starts
  suffices hrun : ∀ (s : LineSplitter) (r : Reading ε),
      let sr := chunks.foldl
        (fun sr chunk => ((sr.1.push maxChars chunk).1, hand parse kind sr.2 (sr.1.push maxChars chunk).2)) (s, r)
      let done := match flush with
        | some text => hand parse kind (hand parse kind sr.2 (sr.1.push maxChars text).2)
            (sr.1.push maxChars text).1.finish
        | none => hand parse kind sr.2 sr.1.finish
      done.batches.flatten =
          r.batches.flatten ++ (s.pushAll maxChars (chunks ++ flush.toList)).filterMap parse ∧
        done.ended =
          ((s.pushAll maxChars (chunks ++ flush.toList)).filterMap parse).foldl (StreamEnd.after kind) r.ended by
    exact hrun .init ⟨.lost, []⟩
  induction chunks with
  | nil =>
    intro s r
    cases flush with
    | none => exact ⟨flatten_hand r s.finish, ended_hand r s.finish⟩
    | some text =>
      show (hand parse kind (hand parse kind r _) _).batches.flatten = _ ∧
        (hand parse kind (hand parse kind r _) _).ended = _
      rw [flatten_hand, flatten_hand, ended_hand, ended_hand, List.append_assoc, ← List.filterMap_append,
        ← List.foldl_append, ← List.filterMap_append]
      exact ⟨rfl, rfl⟩
  | cons chunk chunks ih =>
    intro s r
    obtain ⟨hbatches, hended⟩ := ih (s.push maxChars chunk).1 (hand parse kind r (s.push maxChars chunk).2)
    rw [flatten_hand, List.append_assoc, ← List.filterMap_append] at hbatches
    rw [ended_hand, ← List.foldl_append, ← List.filterMap_append] at hended
    exact ⟨hbatches, hended⟩

end Events

end DTwin.Panel
