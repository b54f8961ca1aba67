import DTwin.Lib.JsonText

/-!
# DTwin.Copilot.Canonical — the text that a plan's hash is of

`canonicalJson` and `hashCommands` of `apps/web/lib/copilot/ledger.ts`.  The canonical text of a JSON value is the
text of the value with its keys in order (`canonicalJson_ofTree`), and texts tell their values: one text is the text
of values that are equal up to the order of keys, and of the commands of a plan it tells what is sent of each. -/

namespace DTwin.Copilot.Canonical

open JsonText Utf16

/-! ## The code -/

/-- What `canonicalJson` can be given; a number that is not finite is none. -/
inductive Value
  | undefined
  /-- A function or a symbol, which has no text, and is not left out of an object as `undefined` is. -/
  | function
  | null
  | bool (b : Bool)
  | number (x : Option Double)
  | string (s : Utf16)
  | array (items : List Value)
  | object (fields : List (Utf16 × Value))

mutual

/-- `canonicalJson`, or its `TypeError`. -/
def canonicalJson : Value → Option Utf16
  | .undefined => none
  | .function => none
  | .null => some (text .null)
  | .bool b => some (text (.bool b))
  | .number none => some (text .null)
  | .number (some x) => some (text (.number x))
  | .string s => some (quote s)
  | .array items => (canonicalItems items).map fun texts => unit '[' :: (JsonText.join texts ++ [unit ']'])
  | .object fields => (canonicalFields fields).map fun entries =>
    unit '{' :: (JsonText.join ((sortFields entries).map fun e => quote e.1 ++ unit ':' :: e.2) ++ [unit '}'])

def canonicalItems : List Value → Option (List Utf16)
  | [] => some []
  | v :: items => (canonicalJson v).bind fun t => (canonicalItems items).map (t :: ·)

/-- The keys whose values are not `undefined`, each with the text of its value. -/
def canonicalFields : List (Utf16 × Value) → Option (List (Utf16 × Utf16))
  | [] => some []
  | (_, .undefined) :: fields => canonicalFields fields
  | (k, v) :: fields => (canonicalJson v).bind fun t => (canonicalFields fields).map ((k, t) :: ·)

end

structure PlanCommand where
  zoneId : Utf16
  zoneName : Utf16
  setpointTempC : Double
  /-- A number, `null` or `undefined`. -/
  durationS : Option (Option Double)
  reason : Utf16

/-- What would be sent of a command. -/
structure Sent where
  zoneId : Utf16
  setpointTempC : Double
  durationS : Option Double
  reason : Utf16

def PlanCommand.sent (c : PlanCommand) : Sent := ⟨c.zoneId, c.setpointTempC, c.durationS.getD none, c.reason⟩

def key (name : String) : Utf16 := ascii name.toList

def Sent.value (c : Sent) : Value :=
  .object
    [(key "zoneId", .string c.zoneId), (key "setpointTempC", .number (some c.setpointTempC)),
      (key "durationS", match c.durationS with | some x => .number (some x) | none => .null),
      (key "reason", .string c.reason)]

/-- What is hashed of a plan. -/
def hashText (commands : List PlanCommand) : Option Utf16 := canonicalJson (.array (commands.map (·.sent.value)))

def hashCommands (sha256 : Utf16 → String) (commands : List PlanCommand) : Option String :=
  (hashText commands).map sha256

/-! ## JSON values -/

mutual

def ofTree : Tree → Value
  | .null => .null
  | .bool b => .bool b
  | .number x => .number (some x)
  | .string s => .string s
  | .array items => .array (ofItems items)
  | .object fields => .object (ofFields fields)

def ofItems : List Tree → List Value
  | [] => []
  | v :: items => ofTree v :: ofItems items

def ofFields : List (Utf16 × Tree) → List (Utf16 × Value)
  | [] => []
  | (k, v) :: fields => (k, ofTree v) :: ofFields fields

end

theorem textFields_eq (fields : List (Utf16 × Tree)) :
    textFields fields = fields.map fun f => quote f.1 ++ unit ':' :: text f.2 := by
  induction fields with
  | nil => rfl
  | cons f fields ih =>
    obtain ⟨k, v⟩ := f
    rw [textFields, ih, List.map_cons]

theorem canonicalFields_cons (k : Utf16) (v : Tree) (fields : List (Utf16 × Value)) :
    canonicalFields ((k, ofTree v) :: fields) =
      (canonicalJson (ofTree v)).bind fun t => (canonicalFields fields).map ((k, t) :: ·) := by
  cases v with
  | _ => rfl

mutual

/-- The canonical text is the text with the keys in order. -/
theorem canonicalJson_ofTree : ∀ v : Tree, canonicalJson (ofTree v) = some (text (sorted v))
  | .null => rfl
  | .bool _ => rfl
  | .number _ => rfl
  | .string _ => rfl
  | .array items => by
    rw [ofTree, canonicalJson, canonicalItems_ofItems items, sorted, text, Option.map_some]
  | .object fields => by
    have hsort : sortFields (fields.map fun f => (f.1, text (sorted f.2))) =
        (sortFields (sortedFields fields)).map fun f => (f.1, text f.2) := by
      rw [map_sortFields, sortedFields_eq, List.map_map]
      rfl
    rw [ofTree, canonicalJson, canonicalFields_ofFields fields, sorted, text, Option.map_some, hsort, List.map_map,
      textFields_eq]
    rfl

theorem canonicalItems_ofItems : ∀ items : List Tree,
    canonicalItems (ofItems items) = some (textItems (sortedItems items))
  | [] => rfl
  | v :: items => by
    rw [ofItems, canonicalItems, canonicalJson_ofTree v, canonicalItems_ofItems items]
    rfl

theorem canonicalFields_ofFields : ∀ fields : List (Utf16 × Tree),
    canonicalFields (ofFields fields) = some (fields.map fun f => (f.1, text (sorted f.2)))
  | [] => rfl
  | (k, v) :: fields => by
    rw [ofFields, canonicalFields_cons, canonicalJson_ofTree v, canonicalFields_ofFields fields]
    rfl

end

theorem canonicalJson_eq_iff {v w : Tree} :
    canonicalJson (ofTree v) = canonicalJson (ofTree w) ↔ sorted v = sorted w := by
  rw [canonicalJson_ofTree, canonicalJson_ofTree, Option.some.injEq]
  exact ⟨text_injective, congrArg text⟩

/-! ## Plans -/

def durationTree : Option Double → Tree
  | some x => .number x
  | none => .null

def Sent.fields (c : Sent) : List (Utf16 × Tree) :=
  [(key "zoneId", .string c.zoneId), (key "setpointTempC", .number c.setpointTempC),
    (key "durationS", durationTree c.durationS), (key "reason", .string c.reason)]

theorem ofTree_fields (c : Sent) : ofTree (.object c.fields) = c.value := by
  obtain ⟨zoneId, setpointTempC, durationS, reason⟩ := c
  cases durationS with
  | _ => rfl

theorem sortedFields_fields (c : Sent) : sortedFields c.fields = c.fields := by
  obtain ⟨zoneId, setpointTempC, durationS, reason⟩ := c
  cases durationS with
  | _ => rfl

theorem durationTree_injective {d d' : Option Double} (h : durationTree d = durationTree d') : d = d' := by
  cases d with
  | none =>
    cases d' with
    | none => rfl
    | some x => cases h
  | some x =>
    cases d' with
    | none => cases h
    | some y => exact congrArg some (Tree.number.inj h)

theorem keys_nodup (c : Sent) : (c.fields.map Prod.fst).Nodup := by
  show [key "zoneId", key "setpointTempC", key "durationS", key "reason"].Nodup
  decide

/-- What is sent is told by the fields, in whatever order. -/
theorem fields_perm {c d : Sent} (h : c.fields.Perm d.fields) : c = d := by
  have hfield : ∀ {k : Utf16} {v w : Tree}, (k, v) ∈ c.fields → (k, w) ∈ d.fields → v = w := by
    intro k v w hv hw
    exact (Prod.mk.inj (eq_of_key_eq (keys_nodup d) (h.subset hv) hw rfl)).2
  obtain ⟨zoneId, setpointTempC, durationS, reason⟩ := c
  obtain ⟨zoneId', setpointTempC', durationS', reason'⟩ := d
  have hzone := hfield (.head _) (.head _)
  have hsetpoint := hfield (.tail _ (.head _)) (.tail _ (.head _))
  have hduration := hfield (.tail _ (.tail _ (.head _))) (.tail _ (.tail _ (.head _)))
  have hreason := hfield (.tail _ (.tail _ (.tail _ (.head _)))) (.tail _ (.tail _ (.tail _ (.head _))))
  cases hzone
  cases hsetpoint
  cases hreason
  cases durationTree_injective hduration
  rfl

theorem sorted_fields_eq_iff (c d : Sent) : sorted (.object c.fields) = sorted (.object d.fields) ↔ c = d := by
  constructor
  · intro h
    rw [sorted, sorted, sortedFields_fields, sortedFields_fields] at h
    have hfields : sortFields c.fields = sortFields d.fields := Tree.object.inj h
    have hperm := sortFields_perm c.fields
    rw [hfields] at hperm
    exact fields_perm (hperm.symm.trans (sortFields_perm d.fields))
  · rintro rfl
    rfl

theorem ofItems_eq (items : List Tree) : ofItems items = items.map ofTree := by
  induction items with
  | nil => rfl
  | cons v items ih => rw [ofItems, ih, List.map_cons]

def planTree (commands : List PlanCommand) : Tree := .array (commands.map fun c => .object c.sent.fields)

theorem hashText_eq (commands : List PlanCommand) : hashText commands = canonicalJson (ofTree (planTree commands)) := by
  have hvalues : commands.map (·.sent.value) = ofItems (commands.map fun c => .object c.sent.fields) := by
    rw [ofItems_eq, List.map_map]
    exact List.map_congr_left fun c _ => (ofTree_fields c.sent).symm
  rw [hashText, hvalues, planTree, ofTree]

theorem sorted_planTree_eq_iff (commands commands' : List PlanCommand) :
    sorted (planTree commands) = sorted (planTree commands') ↔
      commands.map PlanCommand.sent = commands'.map PlanCommand.sent := by
  rw [planTree, planTree, sorted, sorted, Tree.array.injEq, sortedItems_eq, sortedItems_eq, List.map_map, List.map_map]
  induction commands generalizing commands' with
  | nil =>
    cases commands' with
    | nil => exact iff_of_true rfl rfl
    | cons d commands' => exact iff_of_false (List.cons_ne_nil _ _).symm (List.cons_ne_nil _ _).symm
  | cons c commands ih =>
    cases commands' with
    | nil => exact iff_of_false (List.cons_ne_nil _ _) (List.cons_ne_nil _ _)
    | cons d commands' =>
      rw [List.map_cons, List.map_cons, List.map_cons, List.map_cons, List.cons.injEq, List.cons.injEq, ih]
      exact and_congr_left fun _ => sorted_fields_eq_iff c.sent d.sent

/-- **`canonicalJson`.**  A JSON value has a text; values have one text exactly if they are equal up to the order of
keys, and plans hash one text exactly if they would send the same, command by command. -/
theorem canonicalJson_canonical :
    (∀ v w : JsonTree, (canonicalJson (ofTree v.tree)).isSome = true ∧
      (canonicalJson (ofTree v.tree) = canonicalJson (ofTree w.tree) ↔ Reordered v.tree w.tree)) ∧
      ∀ commands commands' : List PlanCommand,
        hashText commands = hashText commands' ↔ commands.map PlanCommand.sent = commands'.map PlanCommand.sent := by
  refine ⟨fun v w => ⟨?_, ?_⟩, fun commands commands' => ?_⟩
  · rw [canonicalJson_ofTree]
    rfl
  · rw [canonicalJson_eq_iff, sorted_eq_iff v.distinct]
  · rw [hashText_eq, hashText_eq, canonicalJson_eq_iff, sorted_planTree_eq_iff]

end DTwin.Copilot.Canonical
