import FleetGate.Fields
import FleetGate.Yaml.Json
import FleetGate.Yaml.Value

/-!
# Decoding YAML values

A decoder takes a value of the form that it expects out of a YAML value, or has none.
It looks through tags.  What is null can be read as anything that may be empty.

* A list may be null, and then it has no items.
* A record is a mapping whose keys are all texts, or null.  Fields that nothing asks
  for are ignored, and one that is asked for stands once.
* An optional field may be missing or null.  A null that has a tag is there.
-/

namespace FleetGate.Yaml.Value

/-- Takes a value out of a YAML value. -/
abbrev Decoder (α : Type) := Value → Option α

/-- The text of a string. -/
def str? : Decoder String := fun v =>
  match v.untagged with
  | .atom (.str s) => some s
  | _ => none

/-- The truth value of a boolean. -/
def bool? : Decoder Bool := fun v =>
  match v.untagged with
  | .atom (.bool b) => some b
  | _ => none

/-- A list of values. -/
def list? {α : Type} (item : Decoder α) : Decoder (List α) := fun v =>
  match v.untagged with
  | .seq items => items.mapM item
  | .atom .null => some []
  | _ => none

/-- The entries of a mapping whose keys are texts. -/
def entries? : Decoder (List (String × Value)) := fun v =>
  match v.untagged with
  | .map entries => entries.mapM fun (k, v) => (str? k).map (·, v)
  | .atom .null => some []
  | _ => none

/-- A mapping of values.  Of two entries with one key the later counts. -/
def table? {α : Type} (item : Decoder α) : Decoder (Fields α) := fun v => do
  let entries ← entries? v
  let fields ← entries.mapM fun (key, v) => (item v).map (key, ·)
  pure (Fields.ofList fields)

/-- A word, alone or as the tag of null. -/
def word? : Decoder String
  | .tagged name (.atom .null) => some (bareName name)
  | .atom (.str s) => some s
  | _ => none

/-! ## Records -/

/-- The field of a record, if it stands at most once. -/
def field? (key : String) (record : List (String × Value)) : Option (Option Value) :=
  match record.filter (·.1 == key) with
  | [] => some none
  | [(_, v)] => some (some v)
  | _ => none

/-- A field that may be missing or null. -/
def optional? {α : Type} (key : String) (item : Decoder α) (record : List (String × Value)) :
    Option (Option α) := do
  match ← field? key record with
  | none | some (.atom .null) => pure none
  | some v => (item v).map some

/-- A field that must be there. -/
def required? {α : Type} (key : String) (item : Decoder α) (record : List (String × Value)) :
    Option α := do
  match ← field? key record with
  | none => none
  | some v => item v

/-- A field that has a default when it is missing. -/
def default? {α : Type} (key : String) (item : Decoder α) (value : α)
    (record : List (String × Value)) : Option α := do
  match ← field? key record with
  | none => pure value
  | some v => item v

/-! ## JSON -/

mutual

/-- A value as JSON.  Keys are texts, whatever their tags, and other values have no
tags. -/
def toJson? : Value → Option Json
  | .atom a => some a.toJson
  | .seq items => (itemsToJson? items).map .arr
  | .map entries => (entriesToJson? entries).map Json.object
  | .tagged .. => none

/-- Items as JSON. -/
def itemsToJson? : List Value → Option (List Json)
  | [] => some []
  | v :: vs => do
      let j ← toJson? v
      let js ← itemsToJson? vs
      pure (j :: js)

/-- Entries as fields. -/
def entriesToJson? : List (Value × Value) → Option (List (String × Json))
  | [] => some []
  | (k, v) :: rest => do
      let key ← str? k
      let j ← toJson? v
      let fields ← entriesToJson? rest
      pure ((key, j) :: fields)

end

end FleetGate.Yaml.Value
