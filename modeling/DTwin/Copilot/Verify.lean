import DTwin.Copilot.Units
import DTwin.Lib.Result

/-!
# DTwin.Copilot.Verify — the verifier between the model's draft and the operator

`apps/web/lib/copilot/verify.ts`.  The expressions over the classes of Unicode are a parameter (`Wording`): they only
add violations.  `lookupPath_ok` and `evaluateDerive_ok` say what a path leads to and what a derivation is;
`backed_of_checkNum` that a figure without a fault is backed by the evidence, and `accepted_of_verifyAnswer` what a
document without a violation is.
-/

namespace DTwin.Copilot

open OrderedMap Decimal Result

structure VerifyContext where
  forecastWeather : Bool

structure AnswerBounds where
  maxAnswerParagraphs : ℕ
  maxAnswerSegments : ℕ
  maxAnswerTextChars : ℕ

def DEFAULT_BOUNDS : AnswerBounds := ⟨6, 48, 1600⟩

structure Wording where
  verifyText : String → Option VerifyContext → List Fault
  /-- What `QUANTITY_AT_START` matches, less the blanks at its end. -/
  quantityAtStart : String → Option String
  /-- `\p{N}` -/
  isNumber : Char → Bool
  /-- `\p{L}` -/
  isLetter : Char → Bool
  /-- `\p{Cf}` -/
  isFormat : Char → Bool
  /-- `\s` -/
  isSpace : Char → Bool
  /-- The path and the message of the first issue of the schema. -/
  issue : AnswerDoc → String

/-! ## Paths -/

inductive Step
  | key (name : String)
  | index (i : ℕ)
deriving DecidableEq

def isKeyStart (c : Char) : Bool := c.isAlpha || c = '_'

def isKeyChar (c : Char) : Bool := c.isAlphanum || c = '_'

/-- `KEY`, and what follows. -/
def takeKey : List Char → Option (Step × List Char)
  | [] => none
  | c :: l =>
    if isKeyStart c then some (.key (String.ofList (c :: l.takeWhile isKeyChar)), l.dropWhile isKeyChar) else none

/-- `INDEX` after its bracket, and what follows. -/
def takeIndex (l : List Char) : Option (Step × List Char) :=
  match l.dropWhile Char.isDigit with
  | ']' :: rest =>
    if 1 ≤ (l.takeWhile Char.isDigit).length ∧ (l.takeWhile Char.isDigit).length ≤ 4 then
      some (.index (Nat.ofDigitChars 10 (l.takeWhile Char.isDigit) 0), rest)
    else none
  | _ => none

/-- What may follow a step: nothing, an index, or a point and a key.  The number bounds the steps. -/
def stepsAfter : ℕ → List Char → Option (List Step)
  | _, [] => some []
  | n + 1, '[' :: l => (takeIndex l).bind fun r => (stepsAfter n r.2).map (r.1 :: ·)
  | n + 1, '.' :: l => (takeKey l).bind fun r => (stepsAfter n r.2).map (r.1 :: ·)
  | _, _ => none

/-- `PATH_RE` and `STEP_RE`: the steps of what is a path. -/
def pathSteps (path : String) : Option (List Step) :=
  (takeKey path.toList).bind fun r => (stepsAfter path.toList.length r.2).map (r.1 :: ·)

/-- An own property of a plain object. -/
def Data.property (name : String) : Data → Option Data
  | .obj fields => fields.lookup name
  | _ => none

def Data.element (i : ℕ) : Data → Option Data
  | .arr items => items[i]?
  | _ => none

def quoted (s : String) : String := "\"" ++ s ++ "\""

/-- The loop of `lookupPath` over the steps that are left. -/
def follow (path : String) : List Step → Data → String → Except String (Data × String)
  | [], current, key => .ok (current, key)
  | .key name :: steps, current, _ =>
    match current.property name with
    | some value => follow path steps value name
    | none => .error (quoted path ++ " has no key " ++ quoted name)
  | .index i :: steps, current, key =>
    match current.element i with
    | some value => follow path steps value key
    | none => .error (quoted path ++ " has no element [" ++ toString i ++ "]")

/-- The value at a path, and the last key on it. -/
def lookupPath (data : Data) (path : String) : Except String (Data × String) :=
  match pathSteps path with
  | none => .error (quoted path ++ " is not a path (a.b[2].c_kwh)")
  | some steps => follow path steps data ""

structure Cited where
  evidenceId : String
  path : String
  value : ℚ
  unit : UnitId
  kind : EvidenceKind

def resolveRef (ref : Ref) (evidence : Evidence) : Except Fault Cited :=
  match evidence.get? ref.evidenceId with
  | none => .error ⟨.evidenceScope, ref.evidenceId ++ " is not evidence from this request"⟩
  | some record =>
    match lookupPath record.data ref.path with
    | .error detail => .error ⟨.ref, ref.evidenceId ++ ": " ++ detail⟩
    | .ok (.num (.finite value), key) =>
      match unitOfKey key with
      | none => .error ⟨.uncitable, ref.evidenceId ++ " " ++ ref.path ++ ": " ++ quoted key ++
          " names no unit, so it cannot back a figure"⟩
      | some unit => .ok ⟨ref.evidenceId, ref.path, value, unit, record.kind⟩
    | .ok _ => .error ⟨.ref, ref.evidenceId ++ " " ++ ref.path ++ " is not a number"⟩

/-! ## Derivations -/

/-- The unit of a difference, where it has one. -/
def differenceUnit (a b : UnitId) : Option UnitId :=
  if a = .c ∧ b = .c then some .k
  else if a = .c ∧ b = .k then some .c
  else if a = b ∧ a ≠ .pct then some a
  else none

/-- A derivation has two refs at least, so `units[0]` is there. -/
def evaluateDerive (op : DeriveOp) (cited : List Cited) : Except String (ℚ × UnitId) :=
  let named := ", ".intercalate (cited.map (·.unit.name))
  match op, cited with
  | .difference, [a, b] =>
    match differenceUnit a.unit b.unit with
    | none => .error ("a difference of " ++ named ++ " has no unit here; cite both values instead")
    | some unit => .ok (a.value - b.value, unit)
  | .difference, _ => .error "difference takes exactly two refs"
  | .sum, [] => .error "values in undefined do not add"
  | .sum, c :: _ =>
    if cited.any (·.unit ≠ c.unit) then .error ("cannot sum " ++ named)
    else if c.unit = .c ∨ c.unit = .pct then .error ("values in " ++ c.unit.name ++ " do not add")
    else .ok (cited.foldl (fun t c => t + c.value) 0, c.unit)
  | .percentChange, [a, b] =>
    if a.unit ≠ b.unit then .error ("percent_change of " ++ named ++ " mixes units")
    else if a.unit = .c ∨ a.unit = .pct then
      .error ("a percent change of values in " ++ a.unit.name ++ " is not meaningful")
    else if a.value = 0 then .error "percent_change from zero is undefined"
    else .ok ((b.value - a.value) / |a.value| * 100, .pct)
  | .percentChange, _ => .error "percent_change takes exactly two refs (from, to)"

/-- Half a unit in the last of `d` displayed places, plus a hair for binary floating point. -/
def tolerance (d : ℕ) (actual : ℚ) : ℚ := 1 / 2 / 10 ^ d + max 1 |actual| / 10 ^ 9

def agrees (value decimals : Num) (actual : ℚ) : Except RangeError Bool := do
  let shown ← displayedValue value decimals
  let d ← assertDecimals decimals
  match shown with
  | .finite x => .ok (|x - actual| ≤ tolerance d actual)
  | .nonFinite => .ok false

def precise (actual : ℚ) : Except RangeError String := formatNumber (.finite actual) (.finite 3) false

/-! ## Figures -/

/-- Every ref of a figure. -/
def NumSegment.refs (seg : NumSegment) : List Ref := seg.ref.toList ++ (seg.derive.map Derive.refs).getD []

/-- Every evidence id a segment points at, in order of appearance. -/
def segmentEvidenceIds : Segment → List String
  | .text _ => []
  | .cite evidenceIds => evidenceIds
  | .num seg => (seg.refs.map Ref.evidenceId).eraseDups

/-- `[0*(\d+)]` as its number, `n` bounding the characters that are left. -/
def canonicalFrom : ℕ → List Char → List Char
  | 0, l => l
  | _, [] => []
  | n + 1, c :: l =>
    if c = '[' ∧ l.takeWhile Char.isDigit ≠ [] ∧ (l.dropWhile Char.isDigit).head? = some ']' then
      '[' :: Nat.toDigits 10 (Nat.ofDigitChars 10 (l.takeWhile Char.isDigit) 0) ++
        canonicalFrom n (l.dropWhile Char.isDigit)
    else c :: canonicalFrom n l

/-- A path in one spelling. -/
def canonicalPath (path : String) : String := String.ofList (canonicalFrom path.toList.length path.toList)

/-- The faults of a figure against the value it must show. -/
def valueFaults (seg : NumSegment) (what : String) (actual : ℚ) : Except RangeError (List Fault) := do
  let agree ← agrees seg.value seg.decimals actual
  if agree then .ok []
  else
    let shown ← formatNumber seg.value seg.decimals false
    let actual ← precise actual
    let d ← assertDecimals seg.decimals
    .ok [⟨.valueMismatch, what ++ " is " ++ actual ++ "; " ++ shown ++ " does not match it at " ++ toString d ++
      " decimals"⟩]

def checkRef (seg : NumSegment) (ref : Ref) (evidence : Evidence) : Except RangeError (List Fault) :=
  if seg.basis = .derived then .ok [⟨.derive, "basis \"derived\" needs a derive, not a single ref"⟩]
  else
    match resolveRef ref evidence with
    | .error fault => .ok [fault]
    | .ok c => (valueFaults seg (c.evidenceId ++ " " ++ c.path) c.value).map fun faults =>
      (if seg.unit = c.unit then []
        else [⟨.unit, c.evidenceId ++ " " ++ c.path ++ " is in " ++ c.unit.name ++ ", not " ++ seg.unit.name⟩]) ++
      (if seg.basis = c.kind.basis then []
        else [⟨.basis, c.evidenceId ++ " is " ++ c.kind.name ++ " evidence, not " ++ seg.basis.name⟩]) ++ faults

/-- Why refs do not resolve. -/
def refFaults (evidence : Evidence) (refs : List Ref) : List Fault :=
  refs.filterMap fun r => match resolveRef r evidence with
    | .error fault => some fault
    | .ok _ => none

def citedOf (evidence : Evidence) (refs : List Ref) : List Cited :=
  refs.filterMap fun r => (resolveRef r evidence).toOption

def checkDerive (seg : NumSegment) (derive : Derive) (evidence : Evidence) : Except RangeError (List Fault) :=
  let cited := citedOf evidence derive.refs
  if seg.basis ≠ .derived then
    .ok [⟨.basis, "a derived figure has basis \"derived\", not \"" ++ seg.basis.name ++ "\""⟩]
  else if ¬ (derive.refs.map fun r => r.evidenceId ++ "|" ++ canonicalPath r.path).Nodup then
    .ok [⟨.derive, "each ref may appear once in a derivation; a repeated ref doubles or cancels a figure"⟩]
  else if refFaults evidence derive.refs ≠ [] then .ok (refFaults evidence derive.refs)
  else if cited.any (·.kind = .simulated) ∧ cited.any (·.kind = .measured) then
    .ok [⟨.basis, "a derivation cannot combine simulated and measured evidence"⟩]
  else
    match evaluateDerive derive.op cited with
    | .error detail => .ok [⟨.derive, detail⟩]
    | .ok (value, unit) => (valueFaults seg ("this " ++ derive.op.name) value).map fun faults =>
      (if seg.unit = unit then []
        else [⟨.unit, "this " ++ derive.op.name ++ " is in " ++ unit.name ++ ", not " ++ seg.unit.name⟩]) ++ faults

def checkNum (seg : NumSegment) (evidence : Evidence) : Except RangeError (List Fault) :=
  match seg.ref, seg.derive with
  | none, none => .ok [⟨.ref, "a figure needs a ref or a derive; cite where it came from"⟩]
  | some _, some _ => .ok [⟨.ref, "give a ref or a derive, not both"⟩]
  | some ref, none => checkRef seg ref evidence
  | none, some derive => checkDerive seg derive evidence

/-- The prose on one side of a figure, nearest segment first, and whether another figure ends it. -/
def adjacentProse (join : String → String → String) : String → List Segment → String × Bool
  | text, [] => (text, false)
  | text, .num _ :: _ => (text, true)
  | text, .text s :: l => adjacentProse join (join text s) l
  | text, .cite _ :: l => adjacentProse join text l

/-- `/(?:[\p{N}.,]|[+\-\u2212]\s*)$/u` -/
def Wording.gluedBefore (w : Wording) (text : String) : Bool :=
  text.toList.reverse.head?.any (fun c => w.isNumber c || c = '.' || c = ',') ||
    (text.toList.reverse.dropWhile w.isSpace).head?.any (['+', '-', '−'].contains ·)

/-- `/^(?:\p{N}|[.,]\p{N})/u` -/
def Wording.gluedAfter (w : Wording) (text : String) : Bool :=
  match text.toList with
  | [] => false
  | c :: l => w.isNumber c || ((c = '.' || c = ',') && l.head?.any w.isNumber)

/-- What a figure and the prose after it read as: more of its unit, or no fault. -/
def Wording.unitGlue (w : Wording) (shown next : String) : List Fault :=
  let read := w.quantityAtStart (shown ++ String.ofList (next.toList.filter fun c => !w.isFormat c))
  let joins := shown.toList.getLast?.any (fun c => !w.isNumber c) &&
    next.toList.head?.any fun c => w.isLetter c || w.isNumber c || c = '°' || c = '%'
  if read.any (fun r => Text.utf16Length shown < Text.utf16Length r) || joins then
    [⟨.gluedFigure, "the text after this figure reads as more of its unit (" ++
      quoted (read.getD (shown ++ String.ofList (next.toList.take 3))) ++
      "); a figure's unit is shown with it — start the text after it with a space and a word that is not a unit"⟩]
  else []

def checkGlue (w : Wording) (segments : List Segment) (si : ℕ) (seg : NumSegment) : Except RangeError (List Fault) :=
  let prev := adjacentProse (fun text s => s ++ text) "" (segments.take si).reverse
  let next := adjacentProse (fun text s => text ++ s) "" (segments.drop (si + 1))
  let before : List Fault :=
    (if prev.2 && prev.1 = "" then
      [⟨.gluedFigure, "two figures side by side read as one; separate them with words"⟩] else []) ++
    (if w.gluedBefore prev.1 then
      [⟨.gluedFigure, "the text before this figure ends in a digit, separator or sign that runs into it; " ++
        "end it with a space or a word"⟩] else [])
  if w.gluedAfter next.1 then
    .ok (before ++ [⟨.gluedFigure, "the text after this figure starts with a digit that runs into it"⟩])
  else if next.1 = "" then .ok before
  else (formatQuantity seg.value seg.decimals seg.unit).map fun shown => before ++ w.unitGlue shown next.1

/-- The evidence a figure cites is of a kind. -/
def isSimulatedFigure (seg : NumSegment) (evidence : Evidence) : Bool :=
  seg.basis = .simulated ||
    (segmentEvidenceIds (.num seg)).any fun id => (evidence.get? id).any (·.kind = .simulated)

/-! ## Totals -/

/-- `METER_TOTAL`: the other total of a meter. -/
def otherTotal (path : String) : Option String :=
  [("total_kwh", "total_excluding_suspect_kwh"), ("total_m3", "total_excluding_suspect_m3"),
    ("total_excluding_suspect_kwh", "total_kwh"), ("total_excluding_suspect_m3", "total_m3")].lookup path

def place (evidenceId path : String) : String := evidenceId ++ "|" ++ path

/-- The total that has to be cited with a ref, if the ref is to a total of a meter with suspect periods. -/
def missingTotal (evidence : Evidence) (cited : List String) (r : Ref) : Option String := do
  let other ← otherTotal r.path
  let record ← evidence.get? r.evidenceId
  if CaveatId.METER_SUSPECT_BUCKETS ∉ record.caveats then none
  else if place r.evidenceId other ∈ cited then none
  else match lookupPath record.data other with
    | .ok (.num (.finite _), _) => some other
    | _ => none

/-- The loop of `unpairedTotals` over the refs that are left. -/
def unpairedFrom (evidence : Evidence) (here : List String) : List String → List Ref → List Fault
  | _, [] => []
  | seen, r :: refs =>
    match missingTotal evidence (here ++ seen) r with
    | none => unpairedFrom evidence here seen refs
    | some other =>
      ⟨.unpairedTotal, r.evidenceId ++ " " ++ r.path ++ " is cited without " ++ other ++ ": this meter has suspect " ++
        "periods, so its raw total and its total without them are given together, never one alone"⟩ ::
        unpairedFrom evidence here (place r.evidenceId r.path :: seen) refs

def unpairedTotals (refs : List Ref) (evidence : Evidence) : List Fault :=
  unpairedFrom evidence (refs.map fun r => place r.evidenceId r.path) [] refs

/-! ## Answers -/

/-- Consecutive text segments, joined. -/
structure Run where
  first : ℕ
  last : ℕ
  text : String

/-- Where a fault of a paragraph is. -/
def faultAt (pi base si last : ℕ) (fault : Fault) : Violation where
  segment := some (base + si)
  rule := fault.rule
  detail := (if last = si then "paragraph " ++ toString (pi + 1) ++ ", segment " ++ toString (si + 1) ++ ": "
    else "paragraph " ++ toString (pi + 1) ++ ", segments " ++ toString (si + 1) ++ "–" ++ toString (last + 1) ++
      ": ") ++ fault.detail

def scopeFaults (evidence : Evidence) (evidenceIds : List String) : List Fault :=
  evidenceIds.filterMap fun id =>
    if (evidence.get? id).isSome then none else some ⟨.evidenceScope, id ++ " is not evidence from this request"⟩

section Verifier

variable (w : Wording) (evidence : Evidence) (context : Option VerifyContext)

def flush (pi base : ℕ) : Option Run → List Violation
  | none => []
  | some run => (w.verifyText run.text context).map (faultAt pi base run.first run.last)

def Run.extend (si : ℕ) (text : String) : Option Run → Run
  | none => ⟨si, si, text⟩
  | some run => ⟨run.first, si, run.text ++ text⟩

/-- The loop over the segments of a paragraph that are left. -/
def segmentLoop (segments : List Segment) (pi base : ℕ) : ℕ → Option Run → List Segment →
    Except RangeError (List Violation)
  | _, run, [] => .ok (flush w context pi base run)
  | si, run, .text s :: l => segmentLoop segments pi base (si + 1) (some (Run.extend si s run)) l
  | si, run, .cite evidenceIds :: l => do
    let rest ← segmentLoop segments pi base (si + 1) run l
    .ok ((scopeFaults evidence evidenceIds).map (faultAt pi base si si) ++ rest)
  | si, run, .num seg :: l => do
    let faults ← checkNum seg evidence
    let glue ← checkGlue w segments si seg
    let rest ← segmentLoop segments pi base (si + 1) none l
    .ok (flush w context pi base run ++ ((faults ++ glue).map (faultAt pi base si si) ++ rest))

def Segment.refs : Segment → List Ref
  | .num seg => seg.refs
  | _ => []

/-- The loop over the paragraphs that are left. -/
def paragraphLoop : ℕ → ℕ → List Paragraph → Except RangeError (List Violation)
  | _, _, [] => .ok []
  | pi, base, p :: ps => do
    let here ← segmentLoop w evidence context p.segments pi base 0 none p.segments
    let rest ← paragraphLoop (pi + 1) (base + p.segments.length) ps
    .ok (here ++ ((unpairedTotals (p.segments.flatMap Segment.refs) evidence).map
      (fun v => ⟨none, v.rule, "paragraph " ++ toString (pi + 1) ++ ": " ++ v.detail⟩) ++ rest))

end Verifier

def AnswerDoc.segments (doc : AnswerDoc) : List Segment := doc.paragraphs.flatMap Paragraph.segments

def Segment.textChars : Segment → ℕ
  | .text s => Text.utf16Length s
  | _ => 0

def tooLong (bounds : AnswerBounds) (doc : AnswerDoc) : List Violation :=
  let textChars := doc.segments.foldl (fun n s => n + s.textChars) 0
  (if bounds.maxAnswerParagraphs < doc.paragraphs.length then
    [⟨none, .tooLong, toString doc.paragraphs.length ++ " paragraphs; at most " ++ toString bounds.maxAnswerParagraphs⟩]
    else []) ++
  (if bounds.maxAnswerSegments < doc.segments.length then
    [⟨none, .tooLong, toString doc.segments.length ++ " segments; at most " ++ toString bounds.maxAnswerSegments⟩]
    else []) ++
  (if bounds.maxAnswerTextChars < textChars then
    [⟨none, .tooLong, toString textChars ++ " characters of text; at most " ++ toString bounds.maxAnswerTextChars⟩]
    else [])

def Segment.isSimulated (evidence : Evidence) : Segment → Bool
  | .num seg => isSimulatedFigure seg evidence
  | _ => false

def simulatedFigure (evidence : Evidence) (doc : AnswerDoc) : Bool := doc.segments.any (·.isSimulated evidence)

/-- The ids of the request that are cited. -/
def citedIds (evidence : Evidence) (doc : AnswerDoc) : List String :=
  ((doc.segments.flatMap segmentEvidenceIds).filter fun id => (evidence.get? id).isSome).eraseDups

/-- What a cited record needs. -/
def recordNeeds (evidence : Evidence) (id : String) : List (CaveatId × String) :=
  match evidence.get? id with
  | none => []
  | some record => record.caveats.map (·, id) ++
      if record.kind = .simulated then [(SIMULATED_FIGURE_CAVEAT, id)] else []

/-- Every caveat that is required, and by what. -/
def needs (evidence : Evidence) (doc : AnswerDoc) : List (CaveatId × String) :=
  let cited := (citedIds evidence doc).flatMap (recordNeeds evidence)
  cited ++ if simulatedFigure evidence doc ∧ SIMULATED_FIGURE_CAVEAT ∉ cited.map Prod.fst then
    [(SIMULATED_FIGURE_CAVEAT, "a simulated figure")] else []

def missingCaveats (evidence : Evidence) (doc : AnswerDoc) : List Violation :=
  (groupBy Prod.fst (needs evidence doc)).entries.filterMap fun e =>
    if e.1 ∈ doc.caveats then none
    else some ⟨none, .caveatRequired, ", ".intercalate (e.2.map Prod.snd).eraseDups ++ " requires caveat " ++
      e.1.name ++ "; add it to caveats"⟩

/-- A caveat that an answer may list. -/
def supported (evidence : Evidence) (doc : AnswerDoc) (caveat : CaveatId) : Bool :=
  evidence.values.any (caveat ∈ ·.caveats) || caveat = CHECK_MODE_CAVEAT ||
    (caveat = SIMULATED_FIGURE_CAVEAT && (simulatedFigure evidence doc || evidence.values.any (·.kind = .simulated)))

def unsupportedCaveats (evidence : Evidence) (doc : AnswerDoc) : List Violation :=
  (doc.caveats.eraseDups.filter fun caveat => !supported evidence doc caveat).map fun caveat =>
    ⟨none, .caveatUnsupported, "no evidence from this request carries " ++ caveat.name ++
      ", so its fixed text would state what was not found; remove it"⟩

/-- Verify a composed answer against this request's evidence. -/
def verifyAnswer (w : Wording) (answer : AnswerDoc) (evidence : Evidence) (context : Option VerifyContext)
    (bounds : AnswerBounds) : Except RangeError (List Violation) :=
  if answer.parses then do
    let faults ← paragraphLoop w evidence context 0 0 answer.paragraphs
    .ok (tooLong bounds answer ++ (faults ++ (missingCaveats evidence answer ++ unsupportedCaveats evidence answer)))
  else .ok [⟨none, .shape, "the answer does not parse: " ++ w.issue answer⟩]

/-! ## What a reference resolves to -/

/-- A value is at the end of some steps into the data. -/
inductive At : Data → List Step → Data → Prop
  | here (data : Data) : At data [] data
  | key {data inner value : Data} {name : String} {steps : List Step} (hinner : data.property name = some inner)
      (hat : At inner steps value) : At data (.key name :: steps) value
  | index {data inner value : Data} {i : ℕ} {steps : List Step} (hinner : data.element i = some inner)
      (hat : At inner steps value) : At data (.index i :: steps) value

/-- The last named key on the steps, `key` being the one before them. -/
def lastKey (key : String) : List Step → String
  | [] => key
  | .key name :: steps => lastKey name steps
  | .index _ :: steps => lastKey key steps

/-- A ref leads to a number in the request's evidence, in the unit that the key it ends in names. -/
structure Found (evidence : Evidence) (ref : Ref) (c : Cited) : Prop where
  evidenceId : c.evidenceId = ref.evidenceId
  path : c.path = ref.path
  found : ∃ record steps, evidence.get? ref.evidenceId = some record ∧ pathSteps ref.path = some steps ∧
    At record.data steps (.num (.finite c.value)) ∧ unitOfKey (lastKey "" steps) = some c.unit ∧ c.kind = record.kind

section Resolving

variable {evidence : Evidence} {ref : Ref} {c : Cited} {path key key' : String} {data value : Data} {steps : List Step}

theorem follow_ok : ∀ {steps : List Step} {data : Data} {key : String},
    follow path steps data key = .ok (value, key') ↔ At data steps value ∧ key' = lastKey key steps
  | [], data, key => by
    constructor
    · intro h
      cases h
      exact ⟨.here _, rfl⟩
    · rintro ⟨⟨⟩, rfl⟩
      rfl
  | .key name :: steps, data, key => by
    rw [follow]
    cases hinner : data.property name with
    | none =>
      constructor
      · intro h
        cases h
      · rintro ⟨h, -⟩
        cases h with
        | key hinner' _ => cases hinner.symm.trans hinner'
    | some inner =>
      refine follow_ok.trans (Iff.intro (fun h => ⟨.key hinner h.1, h.2⟩) ?_)
      rintro ⟨h, hkey⟩
      cases h with
      | key hinner' hat =>
        cases hinner.symm.trans hinner'
        exact ⟨hat, hkey⟩
  | .index i :: steps, data, key => by
    rw [follow]
    cases hinner : data.element i with
    | none =>
      constructor
      · intro h
        cases h
      · rintro ⟨h, -⟩
        cases h with
        | index hinner' _ => cases hinner.symm.trans hinner'
    | some inner =>
      refine follow_ok.trans (Iff.intro (fun h => ⟨.index hinner h.1, h.2⟩) ?_)
      rintro ⟨h, hkey⟩
      cases h with
      | index hinner' hat =>
        cases hinner.symm.trans hinner'
        exact ⟨hat, hkey⟩

theorem lookupPath_ok : lookupPath data path = .ok (value, key) ↔
    ∃ steps, pathSteps path = some steps ∧ At data steps value ∧ key = lastKey "" steps := by
  unfold lookupPath
  cases hsteps : pathSteps path with
  | none => simp
  | some steps => simp [follow_ok]

/-- **A ref resolves** exactly to what is found at it. -/
theorem resolveRef_ok : resolveRef ref evidence = .ok c ↔ Found evidence ref c := by
  unfold resolveRef
  constructor
  · intro h
    split at h
    · cases h
    · rename_i record hrecord
      split at h
      · cases h
      · rename_i value key hlookup
        split at h
        · cases h
        · rename_i unit hunit
          cases h
          obtain ⟨steps, hsteps, hat, rfl⟩ := lookupPath_ok.mp hlookup
          exact ⟨rfl, rfl, record, steps, hrecord, hsteps, hat, hunit, rfl⟩
      · cases h
  · rintro ⟨hid, hpath, record, steps, hrecord, hsteps, hat, hunit, hkind⟩
    have hlookup := lookupPath_ok.mpr ⟨steps, hsteps, hat, rfl⟩
    obtain ⟨evidenceId, path, value, unit, kind⟩ := c
    subst hid hpath hkind
    simp only [hrecord, hlookup, hunit]

end Resolving

/-! ## What a derivation is -/

/-- The value and the unit of a derivation over cited values. -/
inductive Derivation : DeriveOp → List Cited → ℚ → UnitId → Prop
  | difference {a b : Cited} {unit : UnitId} (hunit : differenceUnit a.unit b.unit = some unit) :
      Derivation .difference [a, b] (a.value - b.value) unit
  | sum {c : Cited} {cited : List Cited} (hunits : ∀ c' ∈ c :: cited, c'.unit = c.unit) (hc : c.unit ≠ .c)
      (hpct : c.unit ≠ .pct) : Derivation .sum (c :: cited) ((c :: cited).map Cited.value).sum c.unit
  | percentChange {a b : Cited} (hunit : a.unit = b.unit) (hc : a.unit ≠ .c) (hpct : a.unit ≠ .pct)
      (hzero : a.value ≠ 0) : Derivation .percentChange [a, b] ((b.value - a.value) / |a.value| * 100) .pct

theorem foldl_value (cited : List Cited) : ∀ t : ℚ,
    cited.foldl (fun t c => t + c.value) t = t + (cited.map Cited.value).sum := by
  induction cited with
  | nil => simp
  | cons c cited ih =>
    intro t
    rw [List.foldl_cons, ih, List.map_cons, List.sum_cons, add_assoc]

theorem evaluateDerive_ok {op : DeriveOp} {cited : List Cited} {value : ℚ} {unit : UnitId}
    (h : evaluateDerive op cited = .ok (value, unit)) : Derivation op cited value unit := by
  unfold evaluateDerive at h
  split at h
  · rename_i a b
    split at h
    · cases h
    · rename_i unit hunit
      cases h
      exact .difference hunit
  · cases h
  · cases h
  · rename_i c cited
    split_ifs at h with hunits hkind
    cases h
    rw [foldl_value, zero_add]
    refine .sum ?_ (fun hc => hkind (Or.inl hc)) fun hpct => hkind (Or.inr hpct)
    simpa using hunits
  · rename_i a b
    split_ifs at h with hunit hkind hzero
    cases h
    exact .percentChange (not_not.mp hunit) (fun hc => hkind (Or.inl hc)) (fun hpct => hkind (Or.inr hpct)) hzero
  · cases h

/-! ## What a figure is backed by -/

/-- The number a figure shows is that of the evidence, at the places it shows. -/
def Agrees (seg : NumSegment) (actual : ℚ) : Prop :=
  ∃ x d, displayedValue seg.value seg.decimals = .ok (.finite x) ∧ assertDecimals seg.decimals = .ok d ∧
    |x - actual| ≤ tolerance d actual

/-- No derivation is of a model estimate and of a measurement. -/
def Unmixed (cited : List Cited) : Prop :=
  ∀ c ∈ cited, ∀ c' ∈ cited, c.kind = .simulated → c'.kind ≠ .measured

/-- A figure states what it cites, in its unit and on its basis. -/
inductive Backed (evidence : Evidence) (seg : NumSegment) : Prop
  | ref {ref : Ref} {c : Cited} (hrefs : seg.refs = [ref]) (hfound : Found evidence ref c) (hunit : seg.unit = c.unit)
      (hbasis : seg.basis = c.kind.basis) (hagrees : Agrees seg c.value)
  | derive {op : DeriveOp} {refs : List Ref} {cited : List Cited} {value : ℚ} (hrefs : seg.refs = refs)
      (hfound : List.Forall₂ (Found evidence) refs cited) (hunmixed : Unmixed cited)
      (hderived : Derivation op cited value seg.unit) (hbasis : seg.basis = .derived) (hagrees : Agrees seg value)

section Figures

variable {evidence : Evidence} {seg : NumSegment} {what : String} {actual : ℚ}

theorem agrees_ok {value decimals : Num} (h : agrees value decimals actual = .ok true) :
    ∃ x d, displayedValue value decimals = .ok (.finite x) ∧ assertDecimals decimals = .ok d ∧
      |x - actual| ≤ tolerance d actual := by
  simp only [agrees, bind_eq_ok] at h
  obtain ⟨shown, hshown, d, hd, h⟩ := h
  cases shown with
  | nonFinite => simp at h
  | finite x => exact ⟨x, d, hshown, hd, of_decide_eq_true (Except.ok.inj h)⟩

theorem valueFaults_nil (h : valueFaults seg what actual = .ok []) : Agrees seg actual := by
  simp only [valueFaults, bind_eq_ok] at h
  obtain ⟨agree, hagree, h⟩ := h
  cases agree with
  | true => exact agrees_ok hagree
  | false =>
    simp only [Bool.false_eq_true, if_false, bind_eq_ok] at h
    obtain ⟨shown, -, actual, -, d, -, h⟩ := h
    simp at h

theorem refFaults_nil {refs : List Ref} (h : refFaults evidence refs = []) :
    List.Forall₂ (Found evidence) refs (citedOf evidence refs) := by
  induction refs with
  | nil => exact .nil
  | cons r refs ih =>
    cases hr : resolveRef r evidence with
    | error fault => simp [refFaults, hr] at h
    | ok c =>
      have hcited : citedOf evidence (r :: refs) = c :: citedOf evidence refs := by simp [citedOf, hr, Except.toOption]
      rw [hcited]
      refine .cons (resolveRef_ok.mp hr) (ih ?_)
      simpa [refFaults, hr] using h

end Figures

section Checks

variable {evidence : Evidence} {seg : NumSegment} {w : Wording} {context : Option VerifyContext}

theorem unmixed_of_not_any {cited : List Cited}
    (h : ¬ (cited.any (·.kind = .simulated) = true ∧ cited.any (·.kind = .measured) = true)) : Unmixed cited := by
  intro c hc c' hc' hsimulated hmeasured
  refine h ⟨List.any_eq_true.mpr ⟨c, hc, ?_⟩, List.any_eq_true.mpr ⟨c', hc', ?_⟩⟩
  · simp [hsimulated]
  · simp [hmeasured]

theorem backed_of_checkRef {ref : Ref} (hrefs : seg.refs = [ref]) (h : checkRef seg ref evidence = .ok []) :
    Backed evidence seg := by
  unfold checkRef at h
  split_ifs at h with hbasis
  · simp at h
  · cases hc : resolveRef ref evidence with
    | error fault => simp [hc] at h
    | ok c =>
      simp only [hc, map_eq_ok, List.append_eq_nil_iff, ite_eq_left_iff, reduceCtorEq, imp_false, not_not] at h
      obtain ⟨faults, hfaults, ⟨hunit, hkind⟩, rfl⟩ := h
      exact .ref hrefs (resolveRef_ok.mp hc) hunit hkind (valueFaults_nil hfaults)

theorem backed_of_checkDerive {derive : Derive} (hrefs : seg.refs = derive.refs)
    (h : checkDerive seg derive evidence = .ok []) : Backed evidence seg := by
  simp only [checkDerive] at h
  split_ifs at h with hbasis hplaces hresolved hmixed
  · simp at h
  · exact absurd (Except.ok.inj h) hresolved
  · simp at h
  · cases hvalue : evaluateDerive derive.op (citedOf evidence derive.refs) with
    | error detail => simp [hvalue] at h
    | ok r =>
      obtain ⟨value, unit⟩ := r
      simp only [hvalue, map_eq_ok, List.append_eq_nil_iff, ite_eq_left_iff, reduceCtorEq, imp_false, not_not] at h
      obtain ⟨faults, hfaults, hunit, rfl⟩ := h
      exact .derive hrefs (refFaults_nil (not_not.mp hresolved)) (unmixed_of_not_any hmixed)
        (hunit ▸ evaluateDerive_ok hvalue) (not_not.mp hbasis) (valueFaults_nil hfaults)
  · simp at h

/-- **A figure without a fault is backed** by the evidence it cites. -/
theorem backed_of_checkNum (h : checkNum seg evidence = .ok []) : Backed evidence seg := by
  unfold checkNum at h
  split at h
  · simp at h
  · simp at h
  · rename_i ref href hderive
    exact backed_of_checkRef (by simp [NumSegment.refs, href, hderive]) h
  · rename_i derive href hderive
    exact backed_of_checkDerive (by simp [NumSegment.refs, href, hderive]) h

/-- Every id of a segment is of the request, and its figure is backed. -/
def Sound (evidence : Evidence) : Segment → Prop
  | .text _ => True
  | .cite evidenceIds => ∀ id ∈ evidenceIds, (evidence.get? id).isSome = true
  | .num seg => Backed evidence seg

theorem scopeFaults_nil {evidenceIds : List String} (h : scopeFaults evidence evidenceIds = []) :
    ∀ id ∈ evidenceIds, (evidence.get? id).isSome = true := by
  intro id hid
  have hnone := List.filterMap_eq_nil_iff.mp h id hid
  by_contra hsome
  simp [hsome] at hnone

theorem sound_of_segmentLoop {segments : List Segment} {pi base : ℕ} : ∀ {l : List Segment} {si : ℕ} {run : Option Run},
    segmentLoop w evidence context segments pi base si run l = .ok [] → ∀ s ∈ l, Sound evidence s
  | [], _, _, _ => by simp
  | .text s :: l, si, run, h => by
    rw [segmentLoop] at h
    exact List.forall_mem_cons.mpr ⟨trivial, sound_of_segmentLoop h⟩
  | .cite evidenceIds :: l, si, run, h => by
    simp only [segmentLoop, bind_eq_ok, Except.ok.injEq, List.append_eq_nil_iff, List.map_eq_nil_iff] at h
    obtain ⟨rest, hrest, hscope, rfl⟩ := h
    exact List.forall_mem_cons.mpr ⟨scopeFaults_nil hscope, sound_of_segmentLoop hrest⟩
  | .num seg :: l, si, run, h => by
    simp only [segmentLoop, bind_eq_ok, Except.ok.injEq, List.append_eq_nil_iff, List.map_eq_nil_iff] at h
    obtain ⟨faults, hfaults, glue, -, rest, hrest, -, ⟨rfl, -⟩, rfl⟩ := h
    exact List.forall_mem_cons.mpr ⟨backed_of_checkNum hfaults, sound_of_segmentLoop hrest⟩

theorem sound_of_paragraphLoop : ∀ {ps : List Paragraph} {pi base : ℕ},
    paragraphLoop w evidence context pi base ps = .ok [] → ∀ p ∈ ps, ∀ s ∈ p.segments, Sound evidence s
  | [], _, _, _ => by simp
  | p :: ps, pi, base, h => by
    simp only [paragraphLoop, bind_eq_ok, Except.ok.injEq, List.append_eq_nil_iff] at h
    obtain ⟨here, hhere, rest, hrest, rfl, -, rfl⟩ := h
    exact List.forall_mem_cons.mpr ⟨sound_of_segmentLoop hhere, sound_of_paragraphLoop hrest⟩

end Checks

section Caveats

variable {evidence : Evidence} {seg : NumSegment} {doc answer : AnswerDoc} {w : Wording}
  {context : Option VerifyContext} {bounds : AnswerBounds} {id : String} {record : EvidenceRecord} {caveat : CaveatId}

/-- A segment of the document points at an evidence id: as a citation, a ref, or an operand of a derivation. -/
def AnswerDoc.Cites (doc : AnswerDoc) (id : String) : Prop :=
  ∃ p ∈ doc.paragraphs, (∃ evidenceIds, .cite evidenceIds ∈ p.segments ∧ id ∈ evidenceIds) ∨
    ∃ seg, .num seg ∈ p.segments ∧ ∃ r ∈ seg.refs, r.evidenceId = id

theorem mem_citedIds (hcites : doc.Cites id) (hrecord : evidence.get? id = some record) :
    id ∈ citedIds evidence doc := by
  refine List.mem_eraseDups.mpr (List.mem_filter.mpr ⟨?_, by simp [hrecord]⟩)
  obtain ⟨p, hp, ⟨evidenceIds, hs, hid⟩ | ⟨seg, hs, r, hr, rfl⟩⟩ := hcites
  · exact List.mem_flatMap.mpr ⟨_, List.mem_flatMap.mpr ⟨p, hp, hs⟩, hid⟩
  · exact List.mem_flatMap.mpr ⟨_, List.mem_flatMap.mpr ⟨p, hp, hs⟩, List.mem_eraseDups.mpr (List.mem_map_of_mem hr)⟩

theorem mem_recordNeeds (hrecord : evidence.get? id = some record) : (caveat, id) ∈ recordNeeds evidence id ↔
    caveat ∈ record.caveats ∨ (record.kind = .simulated ∧ caveat = SIMULATED_FIGURE_CAVEAT) := by
  by_cases hkind : record.kind = .simulated <;> simp [recordNeeds, hrecord, hkind]

theorem mem_needs_of_cited {source : String} (hid : id ∈ citedIds evidence doc)
    (hneeds : (caveat, source) ∈ recordNeeds evidence id) : (caveat, source) ∈ needs evidence doc :=
  List.mem_append_left _ (List.mem_flatMap.mpr ⟨id, hid, hneeds⟩)

/-- A simulated figure needs the caveat of the model estimates, whatever it cites. -/
theorem simulated_needs (hsimulated : simulatedFigure evidence doc = true) :
    ∃ source, (SIMULATED_FIGURE_CAVEAT, source) ∈ needs evidence doc := by
  by_cases hmem : SIMULATED_FIGURE_CAVEAT ∈ ((citedIds evidence doc).flatMap (recordNeeds evidence)).map Prod.fst
  · obtain ⟨⟨caveat, source⟩, hneed, rfl⟩ := List.mem_map.mp hmem
    exact ⟨source, List.mem_append_left _ hneed⟩
  · refine ⟨"a simulated figure", List.mem_append_right _ ?_⟩
    rw [if_pos ⟨hsimulated, hmem⟩]
    exact List.mem_singleton.mpr rfl

theorem listed_of_needed {source : String} (hmissing : missingCaveats evidence doc = [])
    (hneeds : (caveat, source) ∈ needs evidence doc) : caveat ∈ doc.caveats := by
  obtain ⟨ids, hget⟩ := Option.isSome_iff_exists.mp (mem_keys.mp (mem_keys_groupBy Prod.fst hneeds))
  have hnone := List.filterMap_eq_nil_iff.mp hmissing _ (mem_entries.mpr hget)
  by_contra hlisted
  simp [hlisted] at hnone

theorem supported_of_listed (hunsupported : unsupportedCaveats evidence doc = []) (hlisted : caveat ∈ doc.caveats) :
    supported evidence doc caveat = true := by
  have hall := List.filter_eq_nil_iff.mp (List.map_eq_nil_iff.mp hunsupported) caveat (List.mem_eraseDups.mpr hlisted)
  simpa using hall

/-- **What an accepted document is**: it parses, every reference of it is sound, it lists the caveats it needs and only
what is supported. -/
structure Accepted (evidence : Evidence) (doc : AnswerDoc) : Prop where
  parses : doc.parses = true
  sound : ∀ p ∈ doc.paragraphs, ∀ s ∈ p.segments, Sound evidence s
  listed : ∀ caveat source, (caveat, source) ∈ needs evidence doc → caveat ∈ doc.caveats
  permitted : ∀ caveat ∈ doc.caveats, supported evidence doc caveat = true

theorem accepted_of_verifyAnswer (h : verifyAnswer w answer evidence context bounds = .ok []) :
    Accepted evidence answer := by
  unfold verifyAnswer at h
  split_ifs at h with hparses
  · simp only [bind_eq_ok, Except.ok.injEq, List.append_eq_nil_iff] at h
    obtain ⟨faults, hfaults, -, rfl, hmissing, hunsupported⟩ := h
    exact ⟨hparses, sound_of_paragraphLoop hfaults, fun caveat source => listed_of_needed hmissing,
      fun caveat => supported_of_listed hunsupported⟩
  · simp at h

theorem Backed.found (hbacked : Backed evidence seg) : ∀ r ∈ seg.refs, ∃ c, Found evidence r c := by
  cases hbacked with
  | ref hrefs hfound =>
    intro r hr
    rw [hrefs, List.mem_singleton] at hr
    exact ⟨_, hr ▸ hfound⟩
  | derive hrefs hfound =>
    intro r hr
    rw [hrefs] at hr
    obtain ⟨c, -, hc⟩ := exists_of_mem_right hfound.flip hr
    exact ⟨c, hc⟩

/-- Whatever an accepted document cites is a record of the request. -/
theorem Accepted.cited (hA : Accepted evidence doc) (hcites : doc.Cites id) :
    ∃ record, evidence.get? id = some record := by
  obtain ⟨p, hp, ⟨evidenceIds, hs, hid⟩ | ⟨seg, hs, r, hr, rfl⟩⟩ := hcites
  · exact Option.isSome_iff_exists.mp (hA.sound p hp _ hs id hid)
  · obtain ⟨c, hc⟩ := Backed.found (hA.sound p hp _ hs) r hr
    obtain ⟨record, steps, hrecord, -⟩ := hc.found
    exact ⟨record, hrecord⟩

end Caveats

end DTwin.Copilot
