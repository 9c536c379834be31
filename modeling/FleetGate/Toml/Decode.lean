import FleetGate.Numeric.Shortest
import FleetGate.Text.Quoted
import FleetGate.Toml.Value

/-!
# Decoding TOML values

A decoder takes a value of the form that it expects out of a TOML value, or
says what it found instead.  The fields of a record are visited in byte order
of their keys, the first failure is the one reported, unknown keys are ignored
and missing fields keep their defaults.  A record may also be written as an
array of its fields in the order of their declaration.  A date or a time counts
as its text.
-/

namespace FleetGate.Toml

/-- Why a value could not be decoded. -/
inductive DecodeError where
  /-- The value is of another type. -/
  | wrongType (found expected : String)
  /-- The value is of the right type and out of bounds. -/
  | wrongValue (found expected : String)
  /-- A record lacks a field that has no default. -/
  | missingField (name : String)
  /-- An array is too short or too long for a record. -/
  | wrongLength (length : Nat) (expected : String)
deriving DecidableEq, Repr, Inhabited

/-- The wording of a decoding failure. -/
def DecodeError.message : DecodeError → String
  | .wrongType found expected => "invalid type: " ++ found ++ ", expected " ++ expected
  | .wrongValue found expected => "invalid value: " ++ found ++ ", expected " ++ expected
  | .missingField name => "missing field \x60" ++ name ++ "\x60"
  | .wrongLength length expected =>
      "invalid length " ++ toString length ++ ", expected " ++ expected

/-- Takes a value out of a TOML value. -/
abbrev Decoder (α : Type) := Toml → Except DecodeError α

/-- What a value is, as failures name it. -/
def describe : Toml → String
  | .str s | .datetime s => "string " ++ Text.quoted s
  | .int n => "integer \x60" ++ toString n ++ "\x60"
  | .float x => "floating point \x60" ++ x.plainText Numeric.binary64 ++ "\x60"
  | .bool b => "boolean \x60" ++ toString b ++ "\x60"
  | .arr _ => "sequence"
  | .table _ => "map"

namespace Decoder

/-- The failure of a decoder that expected something else. -/
def mismatch {α : Type} (expected : String) (t : Toml) : Except DecodeError α :=
  .error (.wrongType (describe t) expected)

/-- A text. -/
def text : Decoder String
  | .str s | .datetime s => .ok s
  | t => mismatch "a string" t

/-- A truth value. -/
def bool : Decoder Bool
  | .bool b => .ok b
  | t => mismatch "a boolean" t

/-- A whole number of eight bits. -/
def byte : Decoder Nat
  | .int n =>
      if 0 ≤ n && n ≤ 255 then .ok n.toNat else .error (.wrongValue (describe (.int n)) "u8")
  | t => mismatch "u8" t

/-- An array of values. -/
def list {α : Type} (item : Decoder α) : Decoder (List α)
  | .arr items => items.mapM item
  | t => mismatch "a sequence" t

/-- A table of values. -/
def map {α : Type} (item : Decoder α) : Decoder (List (String × α))
  | .table fields => fields.mapM fun (key, value) => (item value).map (key, ·)
  | t => mismatch "a map" t

/-- A value that may be missing. -/
def some? {α : Type} (item : Decoder α) : Decoder (Option α) := fun t => (item t).map some

mutual

/-- Any value, with dates and times as their texts. -/
def value : Toml → Toml
  | .datetime s => .str s
  | .arr items => .arr (values items)
  | .table fields => .table (valueFields fields)
  | t => t

/-- The values of an array. -/
def values : List Toml → List Toml
  | [] => []
  | t :: ts => value t :: values ts

/-- The values of a table. -/
def valueFields : List (String × Toml) → List (String × Toml)
  | [] => []
  | (key, t) :: fields => (key, value t) :: valueFields fields

end

/-- A field of a record. -/
structure FieldOf (σ : Type) where
  /-- The key of the field. -/
  name : String
  /-- Decodes the field and puts it into the record. -/
  put : Toml → σ → Except DecodeError σ
  /-- Whether the field has no default. -/
  required : Bool := false

/-- A field that a decoder fills. -/
def field {σ α : Type} (name : String) (item : Decoder α) (set : α → σ → σ) : FieldOf σ where
  name := name
  put t s := (item t).map fun a => set a s

/-- Fills fields from the items of an array, in order. -/
def fillInOrder {σ : Type} : List (FieldOf σ) → List Toml → σ → Except DecodeError σ
  | f :: fields, t :: items, s =>
      match f.put t s with
      | .ok s => fillInOrder fields items s
      | .error e => .error e
  | _, _, s => .ok s

/-- Fills fields from a table, in its order. -/
def fillByKey {σ : Type} (fields : List (FieldOf σ)) :
    List (String × Toml) → σ → Except DecodeError σ
  | [], s => .ok s
  | (key, t) :: entries, s =>
      match fields.find? (·.name == key) with
      | none => fillByKey fields entries s
      | some f =>
          match f.put t s with
          | .ok s => fillByKey fields entries s
          | .error e => .error e

/-- A record with the given fields, which starts from its defaults. -/
def record {σ : Type} (name : String) (fields : List (FieldOf σ)) (start : σ) : Decoder σ
  | .table entries => do
      let s ← fillByKey fields entries start
      match fields.find? fun f => f.required && (Fields.get? f.name entries).isNone with
      | some f => .error (.missingField f.name)
      | none => pure s
  | .arr items => do
      let s ← fillInOrder fields items start
      match (fields.zipIdx.drop items.length).find? (·.1.required) with
      | some (_, i) =>
          let elements := if fields.length == 1 then " element" else " elements"
          .error (.wrongLength i ("struct " ++ name ++ " with " ++ toString fields.length ++ elements))
      | none =>
          if fields.length < items.length then
            .error (.wrongLength items.length "fewer elements in array")
          else pure s
  | t => mismatch ("struct " ++ name) t

end Decoder

end FleetGate.Toml
