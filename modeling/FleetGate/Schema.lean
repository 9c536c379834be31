import FleetGate.Json.Value
import FleetGate.Resource

/-!
# Schemas of objects

An API server publishes a document of definitions, each a schema, and most say
which kinds they define.  `Schema.Index.ofDocument` finds the definition of each
kind.  An object conforms to the definition of its kind if

* a schema that refers to another definition stands for it, one step only, and a
  reference that leads nowhere stands for itself,
* `null` conforms to everything,
* a value has the type its schema names, where `int-or-string` is a type too,
* the fields of an object conform to the properties of those names, and a field
  without a property is unknown unless the schema lets other fields be,
* without properties, all fields conform to the schema of other fields, and
* the items of an array conform to the schema of items.

A value of the wrong type is one violation, and nothing inside it is looked at.
-/

namespace FleetGate.Schema

/-! ## Violations -/

/-- One way in which an object does not conform. -/
inductive Violation where
  /-- A value of another type than its schema names. -/
  | wrongType (path definition found expected : String)
  /-- A field that its schema does not know. -/
  | unknownField (path key definition : String)
deriving DecidableEq, Repr, Inhabited

/-- The wording of a violation. -/
def Violation.message : Violation → String
  | .wrongType path definition found expected =>
      "ValidationError(" ++ path ++ "): invalid type for " ++ definition ++ ": got \"" ++ found ++
        "\", expected \"" ++ expected ++ "\""
  | .unknownField path key definition =>
      "ValidationError(" ++ path ++ "): unknown field \"" ++ key ++ "\" in " ++ definition

/-- What stands before the name of an unknown field in a message. -/
def unknownFieldMark : List Char := "unknown field \"".toList

/-- What follows the first occurrence of some characters. -/
def afterFirst? (mark : List Char) : List Char → Option (List Char)
  | [] => if mark.isEmpty then some [] else none
  | c :: cs =>
      if mark.isPrefixOf (c :: cs) then some ((c :: cs).drop mark.length)
      else afterFirst? mark cs

/-- The name of the unknown field that a message speaks of, up to the next quote. -/
def unknownFieldOf? (message : String) : Option String :=
  match afterFirst? unknownFieldMark message.toList with
  | none => none
  | some rest =>
      if rest.contains '"' then some (String.ofList (rest.takeWhile (· != '"'))) else none

/-! ## Definitions -/

/-- The definitions of a server. -/
structure Index where
  /-- The schemas by name. -/
  definitions : Fields Json
  /-- Which definition defines a kind, the last found first. -/
  kinds : List (Gvk × String)
deriving Inhabited

namespace Index

/-- The kinds that a definition says it defines. -/
def kindsOf (definition : Json) : List Gvk :=
  match (definition.field? "x-kubernetes-group-version-kind").bind Json.items? with
  | none => []
  | some entries => entries.map fun entry =>
      let field (key : String) : String := ((entry.field? key).bind Json.str?).getD ""
      ⟨field "group", field "version", field "kind"⟩

/-- The definitions of a document.  A document without any has none. -/
def ofDocument (document : Json) : Index :=
  let definitions := ((document.field? "definitions").bind Json.fields?).getD []
  let found := definitions.flatMap fun (name, definition) =>
    (kindsOf definition).map fun kind => (kind, name)
  ⟨definitions, found.reverse⟩

/-- The definition of a kind. -/
def find? (index : Index) (kind : Gvk) : Option (String × Json) :=
  match index.kinds.find? (·.1 == kind) with
  | none => none
  | some (_, name) => (Fields.get? name index.definitions).map (name, ·)

/-- The number of kinds that are defined. -/
def count (index : Index) : Nat := (index.kinds.map (·.1)).eraseDups.length

end Index

/-! ## Conformance -/

/-- The text of a field of a schema. -/
def text? (key : String) (schema : Json) : Option String := (schema.field? key).bind Json.str?

/-- Whether a field of a schema is `true`. -/
def flag (key : String) (schema : Json) : Bool := ((schema.field? key).bind Json.bool?).getD false

/-- What stands before the name of a definition in a reference to it. -/
def referenceMark : List Char := "#/definitions/".toList

/-- The name and the schema that a schema stands for. -/
def resolve (definitions : Fields Json) (name : String) (schema : Json) : String × Json :=
  match text? "$ref" schema with
  | none => (name, schema)
  | some ref =>
      if referenceMark.isPrefixOf ref.toList then
        let target := String.ofList (ref.toList.drop referenceMark.length)
        match Fields.get? target definitions with
        | some definition => (target, definition)
        | none => (name, schema)
      else (name, schema)

/-- What violations call the type of a value. -/
def typeName : Json → String
  | .null => "null"
  | .bool _ => "boolean"
  | .int _ => "integer"
  | .float _ => "number"
  | .str _ => "string"
  | .arr _ => "array"
  | .obj _ => "object"

/-- Whether a schema is satisfied by whole numbers and texts alike. -/
def isIntOrString (schema : Json) : Bool :=
  text? "format" schema == some "int-or-string" || flag "x-kubernetes-int-or-string" schema

/-- Whether a value has a type.  Types that are not known hold of every value. -/
def hasType (expected : String) (schema value : Json) : Bool :=
  if isIntOrString schema then
    match value with
    | .str _ | .int _ => true
    | _ => false
  else match expected, value with
    | "string", .str _ => true
    | "integer", .int _ => true
    | "number", .int _ | "number", .float _ => true
    | "boolean", .bool _ => true
    | "object", .obj _ => true
    | "array", .arr _ => true
    | "string", _ | "integer", _ | "number", _ | "boolean", _ | "object", _ | "array", _ => false
    | _, _ => true

/-- The violation of the type that a schema names, if there is one. -/
def typeViolation? (name : String) (schema : Json) (path : String) (value : Json) :
    Option Violation :=
  match text? "type" schema with
  | none => none
  | some expected =>
      if hasType expected schema value then none
      else some (.wrongType path name (typeName value) expected)

mutual

/-- The violations of a value, in the order of its fields and items. -/
def check (definitions : Fields Json) (name : String) (schema : Json) (path : String)
    (value : Json) : List Violation :=
  let (name, schema) := resolve definitions name schema
  match value with
  | .null => []
  | .obj fields =>
      match typeViolation? name schema path (.obj fields) with
      | some v => [v]
      | none =>
          match (schema.field? "properties").bind Json.fields? with
          | some properties =>
              let lenient := flag "x-kubernetes-preserve-unknown-fields" schema ||
                (schema.field? "additionalProperties").isSome
              checkFields definitions name properties lenient path fields
          | none =>
              match (schema.field? "additionalProperties").filter Json.isObject with
              | some other => checkOthers definitions name other path fields
              | none => []
  | .arr items =>
      match typeViolation? name schema path (.arr items) with
      | some v => [v]
      | none =>
          match schema.field? "items" with
          | some item => checkItems definitions name item path 0 items
          | none => []
  | value => (typeViolation? name schema path value).toList
termination_by structural value

/-- The violations of fields that properties describe. -/
def checkFields (definitions : Fields Json) (name : String) (properties : Fields Json)
    (lenient : Bool) (path : String) : List (String × Json) → List Violation
  | [] => []
  | (key, child) :: fields =>
      (match Fields.get? key properties with
        | some schema => check definitions name schema (path ++ "." ++ key) child
        | none => if lenient then [] else [.unknownField path key name]) ++
      checkFields definitions name properties lenient path fields
termination_by structural fields => fields

/-- The violations of fields that one schema describes. -/
def checkOthers (definitions : Fields Json) (name : String) (schema : Json) (path : String) :
    List (String × Json) → List Violation
  | [] => []
  | (key, child) :: fields =>
      check definitions name schema (path ++ "." ++ key) child ++
        checkOthers definitions name schema path fields
termination_by structural fields => fields

/-- The violations of items that one schema describes, from a place on. -/
def checkItems (definitions : Fields Json) (name : String) (schema : Json) (path : String)
    (place : Nat) : List Json → List Violation
  | [] => []
  | item :: items =>
      check definitions name schema (path ++ "[" ++ toString place ++ "]") item ++
        checkItems definitions name schema path (place + 1) items
termination_by structural items => items

end

/-- The group and the version of the text that names both. -/
def splitApiVersion (s : String) : String × String :=
  let version := (s.toList.reverse.takeWhile (· != '/')).reverse
  if s.toList.contains '/' then
    (String.ofList (s.toList.take (s.toList.length - version.length - 1)), String.ofList version)
  else ("", s)

/-- The kind that an object says it is. -/
def kindOf (object : Json) : Gvk :=
  let field (key : String) : String := ((object.field? key).bind Json.str?).getD ""
  let (group, version) := splitApiVersion (field "apiVersion")
  ⟨group, version, field "kind"⟩

/-- The violations of an object.  An object of a kind that nothing defines has
none. -/
def Index.validate (index : Index) (object : Json) : List Violation :=
  let kind := kindOf object
  match index.find? kind with
  | none => []
  | some (name, schema) => check index.definitions name schema kind.kind object

end FleetGate.Schema
