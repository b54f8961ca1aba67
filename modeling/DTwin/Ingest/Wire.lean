import DTwin.Ingest.Fanout
import DTwin.Lib.Json
import DTwin.Lib.Text

/-!
# DTwin.Ingest.Wire — a batch of readings as a frame, and back

The message that `tick` of `apps/ingest/src/fanout.ts` serialises, and what `packages/types/src/ws.ts` and
`packages/types/src/telemetry.ts` let through of it on the other side: `parseServerMessage`, on the messages of type
`telemetry.batch`, and `expandReading`.  A frame is read exactly when each of its values is finite (`decode_batch`).
-/

namespace DTwin.Fanout

open Text (isHexDigit)

/-! ## Texts -/

/-- A text of this shape, one class of characters for each place. -/
def matches? : List (Char → Bool) → List Char → Bool
  | [], [] => true
  | p :: shape, c :: cs => p c && matches? shape cs
  | _, _ => false

theorem matches?_append {shape : List (Char → Bool)} {cs : List Char} (h : matches? shape cs = true)
    (shape' : List (Char → Bool)) (cs' : List Char) :
    matches? (shape ++ shape') (cs ++ cs') = matches? shape' cs' := by
  induction shape generalizing cs with
  | nil =>
    cases cs with
    | nil => rfl
    | cons c cs => simp [matches?] at h
  | cons p shape ih =>
    cases cs with
    | nil => simp [matches?] at h
    | cons c cs =>
      simp only [matches?, Bool.and_eq_true] at h
      simp only [List.cons_append, matches?, h.1, Bool.true_and, ih h.2]

theorem matches?_replicate {p : Char → Bool} : ∀ {cs : List Char}, (∀ c ∈ cs, p c = true) →
    matches? (List.replicate cs.length p) cs = true
  | [], _ => rfl
  | c :: cs, h => by
    have hcs := matches?_replicate fun c' hc' => h c' (List.mem_cons_of_mem c hc')
    simp only [List.length_cons, List.replicate_succ, matches?, h c List.mem_cons_self, hcs, Bool.and_self]

/-- The characters of `cs`, one after the other. -/
def literally (cs : List Char) : List (Char → Bool) := cs.map fun c => (· == c)

theorem matches?_literally : ∀ cs : List Char, matches? (literally cs) cs = true
  | [] => rfl
  | c :: cs => by
    have hcs := matches?_literally cs
    simp only [literally] at hcs
    simp only [literally, List.map_cons, matches?, beq_self_eq_true, hcs, Bool.and_self]

/-- `z.string().uuid()`. -/
def isUuid (s : String) : Bool :=
  matches? (List.replicate 8 isHexDigit ++ literally ['-'] ++ List.replicate 4 isHexDigit ++ literally ['-'] ++
    List.replicate 4 isHexDigit ++ literally ['-'] ++ List.replicate 4 isHexDigit ++ literally ['-'] ++
    List.replicate 12 isHexDigit) s.toList

def Scope.name : Scope → String
  | .building => "building"
  | .floor => "floor"
  | .zone => "zone"
  | .sensor => "sensor"
  | .alerts => "alerts"
  | .sim => "sim"

/-- The regular expression of `Topic`. -/
def isTopic (s : String) : Bool :=
  [Scope.building, .floor, .zone, .sensor, .alerts, .sim].any fun scope =>
    matches? (literally scope.name.toList ++ literally [':'] ++
      List.replicate 36 fun c => isHexDigit c || c == '-') s.toList

/-- The last `width` digits of a number, in hexadecimal. -/
def hex (width n : ℕ) : List Char :=
  (List.range width).map fun i => "0123456789abcdef".toList.getD (n / 16 ^ (width - 1 - i) % 16) '0'

/-- An id as the database writes it. -/
def uuidText (id : Uuid) : String :=
  String.ofList (hex 8 (id / 16 ^ 24) ++ ['-'] ++ hex 4 (id / 16 ^ 20) ++ ['-'] ++ hex 4 (id / 16 ^ 16) ++ ['-'] ++
    hex 4 (id / 16 ^ 12) ++ ['-'] ++ hex 12 id)

def Topic.text (t : Topic) : String := t.scope.name ++ ":" ++ uuidText t.id

@[simp] theorem length_hex (width n : ℕ) : (hex width n).length = width := by simp [hex]

theorem isHexDigit_of_mem_hex {width n : ℕ} {c : Char} (hc : c ∈ hex width n) : isHexDigit c = true := by
  obtain ⟨i, -, rfl⟩ := List.mem_map.mp hc
  have hall : ∀ k < 16, isHexDigit ("0123456789abcdef".toList.getD k '0') = true := by decide +kernel
  exact hall _ (Nat.mod_lt _ (by decide))

theorem matches?_hex (width n : ℕ) : matches? (List.replicate width isHexDigit) (hex width n) = true := by
  have h := matches?_replicate fun c (hc : c ∈ hex width n) => isHexDigit_of_mem_hex hc
  rwa [length_hex] at h

/-- The texts of ids are uuids. -/
theorem isUuid_uuidText (id : Uuid) : isUuid (uuidText id) = true := by
  have hdash := matches?_literally ['-']
  simp only [isUuid, uuidText, String.toList_ofList, List.append_assoc]
  rw [matches?_append (matches?_hex ..), matches?_append hdash, matches?_append (matches?_hex ..),
    matches?_append hdash, matches?_append (matches?_hex ..), matches?_append hdash,
    matches?_append (matches?_hex ..), matches?_append hdash, matches?_hex]

/-- The texts of topics are topics. -/
theorem isTopic_text (t : Topic) : isTopic t.text = true := by
  have hid : matches? (List.replicate 36 fun c => isHexDigit c || c == '-') (uuidText t.id).toList = true := by
    have hlen : (uuidText t.id).toList.length = 36 := by simp [uuidText]
    rw [← hlen]
    refine matches?_replicate fun c hc => ?_
    simp only [uuidText, String.toList_ofList, List.mem_append, List.mem_singleton] at hc
    rw [Bool.or_eq_true, beq_iff_eq]
    grind [isHexDigit_of_mem_hex]
  refine List.any_eq_true.mpr ⟨t.scope, ?_, ?_⟩
  · cases t.scope <;> simp
  · have htext : t.text.toList = t.scope.name.toList ++ [':'] ++ (uuidText t.id).toList := by
      simp [Topic.text]
    rw [htext, List.append_assoc, List.append_assoc, matches?_append (matches?_literally _),
      matches?_append (matches?_literally [':']), hid]

/-! ## The frame -/

/-- `ReadingTuple`: sensor, epoch milliseconds, value and quality. -/
abbrev ReadingTuple := String × ℤ × JsNumber × Quality

/-- A reading as the client has it. -/
structure ClientReading where
  sensorId : String
  ts : ℤ
  value : JsNumber
  quality : Quality
deriving DecidableEq

def expandReading (t : ReadingTuple) : ClientReading := ⟨t.1, t.2.1, t.2.2.1, t.2.2.2⟩

/-- A reading, as a client that gets it unchanged has it. -/
def clientReading (r : Reading) : ClientReading := ⟨uuidText r.sensorId, r.ts, r.value, r.quality⟩

/-- The tuple that `tick` makes of a reading. -/
def tuple (r : Reading) : JsValue :=
  .arr [.str (uuidText r.sensorId), .num (.ofInt r.ts), .num r.value, .num (.ofInt r.quality.code)]

/-- The message that `tick` serialises. -/
def batchMessage (topic : Topic) (readings : List Reading) (sentAt : ℤ) : JsValue :=
  .obj [("type", .str "telemetry.batch"), ("topic", .str topic.text), ("readings", .arr (readings.map tuple)),
    ("sentAt", .num (.ofInt sentAt))]

/-- A `telemetry.batch` of `ServerMessage`. -/
structure BatchMessage where
  topic : String
  readings : List ReadingTuple
  sentAt : ℤ
deriving DecidableEq

/-- `QualityCodeSchema`. -/
def quality? (v : JsValue) : Option Quality :=
  v.int?.bind fun
    | 0 => some .good
    | 1 => some .uncertain
    | 2 => some .outOfRange
    | 3 => some .stale
    | 4 => some .deviceFault
    | _ => none

/-- The schema of a tuple, which has no rest. -/
def readingTuple? : JsValue → Option ReadingTuple
  | .arr [sensorId, ts, value, quality] => do
    let sensorId ← sensorId.string?.filter isUuid
    let ts ← ts.int?
    let value ← value.number?
    let quality ← quality? quality
    return (sensorId, ts, value, quality)
  | _ => none

/-- `parseServerMessage` of a text that says `text`, for the messages of type `telemetry.batch`. -/
def parseServerMessage (text : Json) : Option BatchMessage := do
  let message := text.parse
  let type ← (message.field? "type").bind JsValue.string?
  guard (type = "telemetry.batch")
  let topic ← ((message.field? "topic").bind JsValue.string?).filter isTopic
  let readings ← (message.field? "readings").bind JsValue.array?
  let readings ← readings.mapM readingTuple?
  let sentAt ← (message.field? "sentAt").bind JsValue.int?
  return ⟨topic, readings, sentAt⟩

/-- What the client makes of a text: the topic, and the readings of the frame. -/
def decode (text : Json) : Option (String × List ClientReading) :=
  (parseServerMessage text).map fun m => (m.topic, m.readings.map expandReading)

theorem quality?_code (quality : Quality) : quality? (.num (.ofInt quality.code)) = some quality := by
  rw [quality?, JsValue.int?_ofInt]
  cases quality <;> rfl

theorem readingTuple?_reread (r : Reading) : readingTuple? (tuple r).reread =
    if r.value.isFinite then some (uuidText r.sensorId, r.ts, r.value, r.quality) else none := by
  have hid : (some (uuidText r.sensorId)).filter isUuid = some (uuidText r.sensorId) :=
    Option.filter_eq_some_iff.mpr ⟨rfl, isUuid_uuidText r.sensorId⟩
  simp only [tuple, JsValue.reread_arr, List.map_cons, List.map_nil, JsValue.reread_str, JsValue.reread_ofInt,
    readingTuple?, JsValue.string?, hid, JsValue.int?_ofInt, JsValue.number?_reread, quality?_code]
  split_ifs <;> rfl

theorem mapM_readingTuple? : ∀ readings : List Reading, (readings.map fun r => (tuple r).reread).mapM readingTuple? =
    if readings.all fun r => r.value.isFinite then
      some (readings.map fun r => (uuidText r.sensorId, r.ts, r.value, r.quality))
    else none
  | [] => rfl
  | r :: readings => by
    rw [List.map_cons, List.mapM_cons, readingTuple?_reread, mapM_readingTuple? readings, List.all_cons]
    cases r.value.isFinite
    · rfl
    · cases readings.all fun r => r.value.isFinite <;> rfl

/-- **Frames.**  A frame is read as its readings when each value in it is finite, and otherwise not at all. -/
theorem decode_batch (topic : Topic) (readings : List Reading) (sentAt : ℤ) :
    decode (batchMessage topic readings sentAt).stringify =
      if readings.all fun r => r.value.isFinite then some (topic.text, readings.map clientReading) else none := by
  have htopic : (some topic.text).filter isTopic = some topic.text :=
    Option.filter_eq_some_iff.mpr ⟨rfl, isTopic_text topic⟩
  have hparse : (batchMessage topic readings sentAt).stringify.parse =
      .obj [("type", .str "telemetry.batch"), ("topic", .str topic.text),
        ("readings", .arr (readings.map fun r => (tuple r).reread)), ("sentAt", .num (.ofInt sentAt))] := by
    show (batchMessage topic readings sentAt).reread = _
    simp [batchMessage, Function.comp_def]
  have hmessage : parseServerMessage (batchMessage topic readings sentAt).stringify =
      ((readings.map fun r => (tuple r).reread).mapM readingTuple?).map fun tuples =>
        ⟨topic.text, tuples, sentAt⟩ := by
    rw [parseServerMessage, hparse]
    generalize readings.map (fun r => (tuple r).reread) = items
    simp only [JsValue.field?, List.reverse_cons, List.reverse_nil, List.nil_append, List.cons_append]
    simp [JsValue.string?, JsValue.array?, htopic]
    cases items.mapM readingTuple? <;> rfl
  rw [decode, hmessage, mapM_readingTuple?]
  split_ifs
  · simp [clientReading, expandReading, Function.comp_def]
  · rfl

end DTwin.Fanout
