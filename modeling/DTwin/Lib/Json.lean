import Mathlib.Algebra.GroupWithZero.Nat
import Mathlib.Data.Rat.Defs
import Mathlib.Tactic.Common

/-!
# DTwin.Lib.Json — numbers, values and their JSON

A `JsNumber` is a double, exactly.  `Json` is what a text says, the text itself left out: `JSON.stringify` writes a
number that is not finite as `null` and every other so that `JSON.parse` reads the same number back.  The functions
with a `?` are what a schema lets through of a value.  Of the text itself only its length in bytes is known
(`Json.bytes`).
-/

namespace DTwin

/-- A number; `-0` is `0`, as `===` has it. -/
inductive JsNumber
  | finite (q : ℚ)
  | infinite (negative : Bool)
  | nan
deriving DecidableEq, Repr

namespace JsNumber

def ofInt (n : ℤ) : JsNumber := .finite n

instance (n : ℕ) : OfNat JsNumber n := ⟨ofInt n⟩

def isFinite : JsNumber → Bool
  | finite _ => true
  | _ => false

/-- The integer that `Number.isInteger` accepts. -/
def toInt? : JsNumber → Option ℤ
  | finite q => if q.den = 1 then some q.num else none
  | _ => none

@[simp] theorem toInt?_ofInt (n : ℤ) : (ofInt n).toInt? = some n := by
  simp [ofInt, toInt?]

/-- Below a finite bound. -/
def below (x : JsNumber) (bound : ℚ) : Bool :=
  match x with
  | finite q => q < bound
  | infinite negative => negative
  | nan => false

/-- Above a finite bound. -/
def above (x : JsNumber) (bound : ℚ) : Bool :=
  match x with
  | finite q => bound < q
  | infinite negative => !negative
  | nan => false

end JsNumber

inductive JsValue
  | null
  | bool (b : Bool)
  | num (n : JsNumber)
  | str (s : String)
  | arr (items : List JsValue)
  | obj (fields : List (String × JsValue))

/-- What a JSON text says. -/
inductive Json
  | null
  | bool (b : Bool)
  | num (q : ℚ)
  | str (s : String)
  | arr (items : List Json)
  | obj (fields : List (String × Json))

mutual

/-- `JSON.stringify`. -/
def JsValue.stringify : JsValue → Json
  | .null => .null
  | .bool b => .bool b
  | .num (.finite q) => .num q
  | .num (.infinite _) => .null
  | .num .nan => .null
  | .str s => .str s
  | .arr items => .arr (stringifyItems items)
  | .obj fields => .obj (stringifyFields fields)

def JsValue.stringifyItems : List JsValue → List Json
  | [] => []
  | v :: items => v.stringify :: stringifyItems items

def JsValue.stringifyFields : List (String × JsValue) → List (String × Json)
  | [] => []
  | (name, v) :: fields => (name, v.stringify) :: stringifyFields fields

end

mutual

/-- `JSON.parse`. -/
def Json.parse : Json → JsValue
  | .null => .null
  | .bool b => .bool b
  | .num q => .num (.finite q)
  | .str s => .str s
  | .arr items => .arr (parseItems items)
  | .obj fields => .obj (parseFields fields)

def Json.parseItems : List Json → List JsValue
  | [] => []
  | v :: items => v.parse :: parseItems items

def Json.parseFields : List (String × Json) → List (String × JsValue)
  | [] => []
  | (name, v) :: fields => (name, v.parse) :: parseFields fields

end

namespace JsValue

/-! ## Through a text -/

/-- What is read of a value that was written. -/
def reread (v : JsValue) : JsValue := v.stringify.parse

@[simp] theorem reread_str (s : String) : (str s).reread = str s := rfl

@[simp] theorem reread_ofInt (n : ℤ) : (num (.ofInt n)).reread = num (.ofInt n) := rfl

theorem parseItems_stringifyItems : ∀ items : List JsValue,
    Json.parseItems (stringifyItems items) = items.map reread
  | [] => rfl
  | v :: items => by
    rw [stringifyItems, Json.parseItems, List.map_cons, parseItems_stringifyItems items, reread]

@[simp] theorem reread_arr (items : List JsValue) : (arr items).reread = arr (items.map reread) := by
  rw [reread, stringify, Json.parse, parseItems_stringifyItems]

theorem parseFields_stringifyFields : ∀ fields : List (String × JsValue),
    Json.parseFields (stringifyFields fields) = fields.map fun f => (f.1, f.2.reread)
  | [] => rfl
  | (name, v) :: fields => by
    rw [stringifyFields, Json.parseFields, List.map_cons, parseFields_stringifyFields fields, reread]

@[simp] theorem reread_obj (fields : List (String × JsValue)) :
    (obj fields).reread = obj (fields.map fun f => (f.1, f.2.reread)) := by
  rw [reread, stringify, Json.parse, parseFields_stringifyFields]

/-! ## What a schema lets through -/

def string? : JsValue → Option String
  | str s => some s
  | _ => none

/-- `z.number()`, which refuses `NaN` only. -/
def number? : JsValue → Option JsNumber
  | num n => if n = .nan then none else some n
  | _ => none

/-- `z.number().int()`. -/
def int? (v : JsValue) : Option ℤ := v.number?.bind JsNumber.toInt?

def array? : JsValue → Option (List JsValue)
  | arr items => some items
  | _ => none

/-- A property of an object; of two of one name the last counts. -/
def field? (v : JsValue) (name : String) : Option JsValue :=
  match v with
  | obj fields => (fields.reverse.find? fun f => f.1 = name).map Prod.snd
  | _ => none

@[simp] theorem int?_ofInt (n : ℤ) : (num (.ofInt n)).int? = some n := by
  have hne : JsNumber.ofInt n ≠ .nan := nofun
  rw [int?, number?, if_neg hne, Option.bind_some, JsNumber.toInt?_ofInt]

/-- A number is read again exactly when it was finite. -/
theorem number?_reread (n : JsNumber) : (num n).reread.number? = if n.isFinite then some n else none := by
  cases n with
  | finite q => rfl
  | infinite negative => rfl
  | nan => rfl

end JsValue

/-! ## How long a text is -/

section Bytes

/-- The bytes of a character in a JSON string. -/
def charBytes (c : Char) : ℕ :=
  if c = '"' ∨ c = '\\' then 2
  else if 0x20 ≤ c.toNat then c.utf8Size
  else if c.toNat ∈ [0x08, 0x09, 0x0a, 0x0c, 0x0d] then 2
  else 6

def stringBytes (s : String) : ℕ := 2 + (s.toList.map charBytes).sum

/-- Between two brackets, with commas. -/
def listBytes (sizes : List ℕ) : ℕ := 2 + sizes.sum + (sizes.length - 1)

variable (numberBytes : ℚ → ℕ)

mutual

/-- The bytes of a text, those of a number given. -/
def Json.bytes : Json → ℕ
  | .null => 4
  | .bool true => 4
  | .bool false => 5
  | .num q => numberBytes q
  | .str s => stringBytes s
  | .arr items => listBytes (itemBytes items)
  | .obj fields => listBytes (fieldBytes fields)

def Json.itemBytes : List Json → List ℕ
  | [] => []
  | v :: items => v.bytes :: itemBytes items

def Json.fieldBytes : List (String × Json) → List ℕ
  | [] => []
  | (name, v) :: fields => (stringBytes name + 1 + v.bytes) :: fieldBytes fields

end

theorem Json.itemBytes_eq (items : List Json) :
    Json.itemBytes numberBytes items = items.map (Json.bytes numberBytes) := by
  induction items with
  | nil => rfl
  | cons v items ih => rw [Json.itemBytes, ih, List.map_cons]

end Bytes

end DTwin
