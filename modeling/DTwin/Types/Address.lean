import DTwin.Lib.Text
import Mathlib.Data.Int.Basic
import Mathlib.Data.List.GetD
import Mathlib.Tactic.Common

/-!
# DTwin.Types.Address — whom is a failure held against?

`clientAddress` of `packages/types/src/limiter.ts`.  A request comes with what its sender put into
`X-Forwarded-For`, any lines of any text; each proxy that is trusted adds an entry, to the last line or on a line of
its own, and the server reads the lines as one text or as a list.  `clientAddress_forwarded` says that with as many
trusted hops as proxies the entry of the outermost is read, whatever the sender had put.
-/

namespace DTwin.Limiter

open Text (isBlank trim)

/-! ## The function -/

/-- What the server has of the header: one text, or a list of them. -/
inductive Forwarded
  | text (s : List Char)
  | lines (ls : List (List Char))

/-- `forwardedFor.join(',')` of a list. -/
def Forwarded.joined : Forwarded → List Char
  | text s => s
  | lines ls => [','].intercalate ls

/-- The entries of a header. -/
def entries (s : List Char) : List (List Char) := ((s.splitOn ',').map trim).filter (0 < ·.length)

/-- The address to hold a failure against. -/
def clientAddress (remoteAddress : Option (List Char)) (forwardedFor : Option Forwarded) (trustedHops : ℤ) :
    List Char :=
  let fallback := remoteAddress.getD "unknown".toList
  match forwardedFor with
  | none => fallback
  | some forwarded =>
    if trustedHops ≤ 0 then fallback
    else
      let es := entries forwarded.joined
      if trustedHops ≤ es.length then es.getD (es.length - trustedHops).toNat [] else fallback

/-! ## What the proxies do -/

/-- What a proxy adds: a text without commas that is not blank.  The blanks around it are not part of the entry. -/
structure Entry where
  text : List Char
  comma_notMem : ',' ∉ text
  nonempty : trim text ≠ []

/-- Where a proxy adds it: on a line of its own, or after a comma on the last one. -/
inductive Placing
  | newLine
  | lastLine

/-- The lines a proxy sends on. -/
def forward (lines : List (List Char)) (proxy : Placing × Entry) : List (List Char) :=
  match proxy.1, lines.getLast? with
  | .lastLine, some last => lines.dropLast ++ [last ++ ',' :: proxy.2.text]
  | _, _ => lines ++ [proxy.2.text]

/-- How a server shows several lines: joined with a comma and a blank, or as they are. -/
def view (asList : Bool) (lines : List (List Char)) : Forwarded :=
  if asList then .lines lines else .text ([',', ' '].intercalate lines)

/-! ## Blanks and commas -/

theorem trim_append {blanks : List Char} (hblanks : blanks.all isBlank) (s : List Char) :
    trim (blanks ++ s) = trim s := by
  have hdrop : (blanks ++ s).dropWhile isBlank = s.dropWhile isBlank := by
    induction blanks with
    | nil => rfl
    | cons c blanks ih =>
      rw [List.all_cons, Bool.and_eq_true] at hblanks
      rw [List.cons_append, List.dropWhile_cons_of_pos hblanks.1, ih hblanks.2]
  rw [trim, trim, hdrop]

theorem splitOn_append {blanks : List Char} (hblanks : blanks.all isBlank) (s : List Char) :
    (blanks ++ s).splitOn ',' = (s.splitOn ',').modifyHead (blanks ++ ·) := by
  induction blanks with
  | nil =>
    obtain ⟨part, parts, hparts⟩ := List.exists_cons_of_ne_nil (List.splitOn_ne_nil ',' s)
    rw [List.nil_append, hparts]
    rfl
  | cons c blanks ih =>
    rw [List.all_cons, Bool.and_eq_true] at hblanks
    have hne : (c == ',') = false := by
      rw [beq_eq_false_iff_ne]
      rintro rfl
      exact absurd hblanks.1 (by decide)
    obtain ⟨part, parts, hparts⟩ := List.exists_cons_of_ne_nil (List.splitOn_ne_nil ',' s)
    rw [List.cons_append, List.splitOn_cons_eq_if_modifyHead, ih hblanks.2, hparts, hne]
    rfl

theorem entries_append_comma (a b : List Char) : entries (a ++ ',' :: b) = entries a ++ entries b := by
  rw [entries, List.splitOn_append_cons_self, List.map_append, List.filter_append, entries, entries]

/-- Blanks in front change nothing. -/
theorem entries_append_blanks {blanks : List Char} (hblanks : blanks.all isBlank) (s : List Char) :
    entries (blanks ++ s) = entries s := by
  obtain ⟨part, parts, hparts⟩ := List.exists_cons_of_ne_nil (List.splitOn_ne_nil ',' s)
  rw [entries, splitOn_append hblanks, hparts, List.modifyHead_cons, List.map_cons, trim_append hblanks, entries,
    hparts,
    List.map_cons]

theorem entries_entry (e : Entry) : entries e.text = [trim e.text] := by
  have hpos : decide (0 < (trim e.text).length) = true := decide_eq_true (List.length_pos_iff.mpr e.nonempty)
  rw [entries, List.splitOn_eq_singleton e.comma_notMem, List.map_singleton]
  exact List.filter_cons_of_pos (p := (0 < List.length ·)) hpos

theorem entries_nil : entries [] = [] := by decide

/-- The entries of lines are those of each. -/
theorem entries_intercalate {blanks : List Char} (hblanks : blanks.all isBlank) : ∀ lines : List (List Char),
    entries ((',' :: blanks).intercalate lines) = lines.flatMap entries
  | [] => entries_nil
  | [line] => by simp
  | line :: next :: lines => by
    have hrest := entries_intercalate hblanks (next :: lines)
    rw [List.intercalate_cons_cons, List.append_assoc, List.cons_append, entries_append_comma,
      entries_append_blanks hblanks, hrest, List.flatMap_cons, List.flatMap_cons, List.flatMap_cons]

theorem entries_view (asList : Bool) (lines : List (List Char)) :
    entries (view asList lines).joined = lines.flatMap entries := by
  cases asList with
  | false => exact entries_intercalate (by decide : [' '].all isBlank = true) lines
  | true => exact entries_intercalate (by decide : [].all isBlank = true) lines

/-- A proxy adds its entry to the end. -/
theorem flatMap_entries_forward (lines : List (List Char)) (proxy : Placing × Entry) :
    (forward lines proxy).flatMap entries = lines.flatMap entries ++ [trim proxy.2.text] := by
  obtain ⟨placing, e⟩ := proxy
  have hnew : (lines ++ [e.text]).flatMap entries = lines.flatMap entries ++ [trim e.text] := by
    rw [List.flatMap_append, List.flatMap_singleton, entries_entry]
  cases placing with
  | newLine => exact hnew
  | lastLine =>
    unfold forward
    cases hlast : lines.getLast? with
    | none => exact hnew
    | some last =>
      obtain ⟨init, rfl⟩ := List.getLast?_eq_some_iff.mp hlast
      simp only [List.dropLast_concat]
      rw [List.flatMap_append, List.flatMap_append, List.flatMap_singleton, List.flatMap_singleton,
        entries_append_comma, entries_entry, List.append_assoc]

theorem flatMap_entries_foldl : ∀ (proxies : List (Placing × Entry)) (lines : List (List Char)),
    (proxies.foldl forward lines).flatMap entries = lines.flatMap entries ++ proxies.map (trim ·.2.text)
  | [], lines => (List.append_nil _).symm
  | proxy :: proxies, lines => by
    rw [List.foldl_cons, flatMap_entries_foldl proxies, flatMap_entries_forward, List.append_assoc]
    rfl

/-! ## The address -/

/-- **The client's address.**  Behind as many trusted proxies as there are trusted hops, each of which adds an entry,
the entry of the outermost is returned, whatever lines the request came with; and with fewer entries than hops, or
with no trusted hop, the header does not matter. -/
theorem clientAddress_forwarded (remoteAddress : Option (List Char)) (sent : List (List Char)) (asList : Bool)
    (outermost : Placing × Entry) (others : List (Placing × Entry)) :
    clientAddress remoteAddress (some (view asList ((outermost :: others).foldl forward sent)))
        (outermost :: others).length = trim outermost.2.text ∧
      ∀ (forwardedFor : Option Forwarded) (trustedHops : ℤ),
        (trustedHops ≤ 0 ∨ ∀ forwarded ∈ forwardedFor, ((entries forwarded.joined).length : ℤ) < trustedHops) →
          clientAddress remoteAddress forwardedFor trustedHops = clientAddress remoteAddress none trustedHops := by
  constructor
  · have hentries := flatMap_entries_foldl (outermost :: others) sent
    have hhops : ¬ (((outermost :: others).length : ℤ) ≤ 0) := by
      rw [List.length_cons]
      omega
    have hle : ((outermost :: others).length : ℤ) ≤
        ((sent.flatMap entries ++ (outermost :: others).map (trim ·.2.text)).length : ℕ) := by
      simp only [List.length_append, List.length_map]
      omega
    have hindex : (((sent.flatMap entries ++ (outermost :: others).map (trim ·.2.text)).length : ℤ) -
        (outermost :: others).length).toNat = (sent.flatMap entries).length := by
      simp only [List.length_append, List.length_map]
      omega
    simp only [clientAddress]
    rw [if_neg hhops, entries_view, hentries, if_pos hle, hindex, List.getD_append_right _ _ _ _ le_rfl, Nat.sub_self]
    rfl
  · intro forwardedFor trustedHops h
    unfold clientAddress
    cases forwardedFor with
    | none => rfl
    | some forwarded =>
      simp only
      split_ifs with hhops hle
      · rfl
      · rcases h with h | h
        · exact absurd h hhops
        · exact absurd hle (Int.not_le.mpr (h forwarded rfl))
      · rfl

/-- A request whose sender claims two addresses comes through two proxies; and one that names fewer entries than there
are hops is held against its own address. -/
theorem clientAddress_twoHops :
    clientAddress none (some (view false ([(.newLine, ⟨" 10.0.0.7".toList, by decide, by decide⟩),
        (.lastLine, ⟨"10.0.0.8".toList, by decide, by decide⟩)].foldl forward ["1.1.1.1,2.2.2.2".toList]))) 2 =
        "10.0.0.7".toList ∧
      clientAddress (some "10.0.0.9".toList) (some (.text "1.1.1.1".toList)) 2 = "10.0.0.9".toList :=
  ⟨(clientAddress_forwarded none ["1.1.1.1,2.2.2.2".toList] false
      (.newLine, ⟨" 10.0.0.7".toList, by decide, by decide⟩)
      [(.lastLine, ⟨"10.0.0.8".toList, by decide, by decide⟩)]).1,
    (clientAddress_forwarded (some "10.0.0.9".toList) [] false
      (.newLine, ⟨" 10.0.0.7".toList, by decide, by decide⟩) []).2 _ 2 (Or.inr fun forwarded hforwarded => by
        obtain rfl := Option.some.inj hforwarded
        decide)⟩

end DTwin.Limiter
