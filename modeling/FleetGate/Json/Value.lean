import FleetGate.Fields
import FleetGate.Numeric.Binary

/-!
# Values of JSON documents

Requests, answers of API servers and schemas are JSON.  An object is a list of
fields in byte order of their keys, each key once, so two objects with the same
fields are equal.  `Json.obj` is the bare constructor.  `Json.object` sorts,
and of two fields with one key it keeps the later.

Whole numbers that fit 64 bits, with or without a sign, are kept apart from
floating-point numbers: `1` and `1.0` are different values.
-/

namespace FleetGate

/-- A JSON value. -/
inductive Json where
  /-- `null`. -/
  | null
  /-- `true` or `false`. -/
  | bool (b : Bool)
  /-- A whole number. -/
  | int (n : Int)
  /-- A number with a fraction or a power of ten, or one that no integer of 64
  bits holds. -/
  | float (x : Numeric.Binary)
  /-- A text. -/
  | str (s : String)
  /-- An array. -/
  | arr (items : List Json)
  /-- An object. -/
  | obj (fields : List (String × Json))
deriving Repr, Inhabited

namespace Json

/-- The object with the given fields. -/
def object (fields : List (String × Json)) : Json := .obj (Fields.ofList fields)

/-- The object with the fields that are there. -/
def objectOf (fields : List (String × Option Json)) : Json :=
  object (fields.filterMap fun (key, value) => value.map (key, ·))

mutual

/-- Whether two values are the same. -/
def beq : Json → Json → Bool
  | .null, .null => true
  | .bool a, .bool b => a == b
  | .int a, .int b => a == b
  | .float a, .float b => a == b
  | .str a, .str b => a == b
  | .arr a, .arr b => beqItems a b
  | .obj a, .obj b => beqFields a b
  | _, _ => false

/-- Whether two lists of values are the same. -/
def beqItems : List Json → List Json → Bool
  | [], [] => true
  | a :: as, b :: bs => beq a b && beqItems as bs
  | _, _ => false

/-- Whether two lists of fields are the same. -/
def beqFields : List (String × Json) → List (String × Json) → Bool
  | [], [] => true
  | (k, a) :: as, (l, b) :: bs => k == l && beq a b && beqFields as bs
  | _, _ => false

end

instance : BEq Json := ⟨beq⟩

/-- The field of an object.  Other values have no fields. -/
def field? (key : String) : Json → Option Json
  | .obj fields => Fields.get? key fields
  | _ => none

/-- The text of a string. -/
def str? : Json → Option String
  | .str s => some s
  | _ => none

/-- The truth value of a boolean. -/
def bool? : Json → Option Bool
  | .bool b => some b
  | _ => none

/-- The number of a whole number. -/
def int? : Json → Option Int
  | .int n => some n
  | _ => none

/-- The items of an array. -/
def items? : Json → Option (List Json)
  | .arr items => some items
  | _ => none

/-- The fields of an object. -/
def fields? : Json → Option (List (String × Json))
  | .obj fields => some fields
  | _ => none

/-- Whether the value is `null`. -/
def isNull : Json → Bool
  | .null => true
  | _ => false

/-- Whether the value is an object. -/
def isObject : Json → Bool
  | .obj _ => true
  | _ => false

/-- The field of an object that is there and not `null`. -/
def present? (key : String) (j : Json) : Option Json :=
  (j.field? key).filter fun v => !v.isNull

/-- A text, or `null` for none. -/
def ofText? : Option String → Json
  | some s => .str s
  | none => .null

/-- An array of texts. -/
def ofTexts (texts : List String) : Json := .arr (texts.map .str)

end Json

end FleetGate
