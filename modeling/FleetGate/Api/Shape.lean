import FleetGate.Api.Moment
import FleetGate.Json.Parser

/-!
# Shapes of API objects

An answer of an API server counts only if it has the shape of what was asked for.  A
shape takes out of a draft what it names and ignores the rest, of which it does not even
ask whether its texts are sound and its numbers finite.

There are two kinds of objects with known fields.

* In a record any field may be missing or `null`, and it may stand there several times.
  Each time it must have its shape, and the last one counts.  An object may say what it
  is, and if it does it must say what was asked for.
* A row of parts names each of them once at most, and some must be there.  It may also be
  an array of the parts in order.
-/

namespace FleetGate.Api

open Json (Draft Flaw Written)

/-- What is wanted of an answer. -/
abbrev Wanted (α : Type) := Draft → Except Flaw α

/-- What a value must look like. -/
inductive Shape where
  /-- Anything. -/
  | any
  /-- A text. -/
  | text
  /-- One text only. -/
  | only (word : String)
  /-- A truth value. -/
  | bool
  /-- A whole number of 16 bits. -/
  | word16
  /-- A whole number of 32 bits with a sign. -/
  | int32
  /-- A whole number of 64 bits with a sign. -/
  | int64
  /-- A whole number of 32 bits with a sign, or a text. -/
  | int32OrText
  /-- A point in time. -/
  | time
  /-- An array. -/
  | list (item : Shape)
  /-- An object with keys of any name. -/
  | map (item : Shape)
  /-- An object with known fields. -/
  | record (fields : List (String × Shape))
  /-- Known parts.  Those that say so must be there. -/
  | parts (fields : List (String × Bool × Shape))
deriving Inhabited

namespace Shape

/-- Whether a whole number has so many bits, one of them the sign. -/
def fits (bits : Nat) (n : Int) : Bool := -(1 <<< (bits - 1) : Nat) ≤ n && n < (1 <<< (bits - 1) : Nat)

/-- Whether a value that holds no others has a shape. -/
def accepts : Shape → Json → Bool
  | .text, .str _ => true
  | .only word, .str s => s == word
  | .bool, .bool _ => true
  | .word16, .int n => 0 ≤ n && n < 0x10000
  | .int32, .int n => fits 32 n
  | .int64, .int n => fits 64 n
  | .int32OrText, .int n => fits 32 n
  | .int32OrText, .str _ => true
  | .time, .str s => Moment.isMoment s
  | _, _ => false

/-- Whether `null` stands for a missing field of a shape. -/
def isNullable : Shape → Bool
  | .only _ => false
  | _ => true

/-- The value of a draft that holds no others and must have a shape.  An array or an
object has none that counts. -/
def single (shape : Shape) (draft : Draft) : Except Flaw Json :=
  match draft with
  | .arr _ _ | .obj _ _ => .error .malformed
  | draft => do
      let value ← draft.value 0
      if shape.accepts value then pure value else .error .malformed

/-- How the field of an object is read: whether it may be `null`, whether it may stand
there again, and its shape. -/
structure Place where
  /-- Whether it may be `null`. -/
  nullable : Bool
  /-- Whether it may stand there again. -/
  repeats : Bool
  /-- Its shape. -/
  shape : Shape

/-- How a field of an object is read, if its shape knows the field. -/
def place? (key : String) : Shape → Option Place
  | .map item => some ⟨false, true, item⟩
  | .record fields => (fields.find? (·.1 == key)).map fun (_, shape) => ⟨shape.isNullable, true, shape⟩
  | .parts fields => (fields.find? (·.1 == key)).map fun (_, _, shape) => ⟨false, false, shape⟩
  | _ => none

/-- Whether a shape is one of objects. -/
def isObject : Shape → Bool
  | .map _ | .record _ | .parts _ => true
  | _ => false

/-- Whether all that must be there is there. -/
def isComplete (shape : Shape) (fields : List (String × Json)) : Bool :=
  match shape with
  | .parts known => known.all fun (key, needed, _) => !needed || fields.any (·.1 == key)
  | _ => true

mutual

/-- What a shape takes out of a draft. -/
def read (room : Nat) (shape : Shape) : Draft → Except Flaw Json
  | .arr items flaw? => match shape with
      | .any => Draft.value room (.arr items flaw?)
      | .list item => Draft.inside room fun room => do
          let values ← readItems room item items
          Draft.ended flaw?
          pure (.arr values)
      | .parts known => Draft.inside room fun room => do
          let fields ← readParts room flaw? known items
          pure (Json.object fields)
      | _ => .error .malformed
  | .obj entries flaw? => match shape with
      | .any => Draft.value room (.obj entries flaw?)
      | shape =>
          if shape.isObject then Draft.inside room fun room => do
            let fields ← readEntries room shape [] entries
            Draft.ended flaw?
            if shape.isComplete fields then pure (Json.object fields) else .error .malformed
          else .error .malformed
  | draft => match shape with
      | .any => draft.value room
      | shape => single shape draft

/-- What the items of an array come to. -/
def readItems (room : Nat) (shape : Shape) : List Draft → Except Flaw (List Json)
  | [] => .ok []
  | item :: items => do
      let value ← read room shape item
      let values ← readItems room shape items
      pure (value :: values)

/-- What the parts in an array come to.  Nothing may stand behind them. -/
def readParts (room : Nat) (flaw? : Option Flaw) (known : List (String × Bool × Shape)) :
    List Draft → Except Flaw (List (String × Json))
  | [] => do
      Draft.ended flaw?
      if known.any fun (_, needed, _) => needed then .error .malformed else pure []
  | item :: items => match known with
      | [] => .error .malformed
      | (key, _, shape) :: known => do
          let value ← read room shape item
          let fields ← readParts room flaw? known items
          pure ((key, value) :: fields)

/-- What the entries of an object come to.  `seen` are the keys in front of them. -/
def readEntries (room : Nat) (shape : Shape) (seen : List String) :
    List (Written × Draft) → Except Flaw (List (String × Json))
  | [] => .ok []
  | (key, draft) :: entries => do
      let name ← key.value
      match shape.place? name with
      | none =>
          Draft.ended draft.flaw?
          readEntries room shape seen entries
      | some place =>
          if !place.repeats && seen.contains name then .error .malformed
          else do
            let value ← match place.nullable, draft with
              | true, .null => pure .null
              | _, draft => read room place.shape draft
            let fields ← readEntries room shape (name :: seen) entries
            pure ((name, value) :: fields)

end

/-- What a shape takes out of an answer. -/
def wanted (shape : Shape) : Wanted Json := shape.read Json.maxDepth

/-- An object of a kind, as far as it says what it is. -/
def typed (apiVersion kind : String) (fields : List (String × Shape)) : Shape :=
  .record (("apiVersion", .only apiVersion) :: ("kind", .only kind) :: fields)

/-- The metadata of an object. -/
def objectMeta : Shape :=
  .record [("annotations", .map .text), ("creationTimestamp", .time),
    ("deletionGracePeriodSeconds", .int64), ("deletionTimestamp", .time),
    ("finalizers", .list .text), ("generateName", .text), ("generation", .int64),
    ("labels", .map .text),
    ("managedFields", .list (.record [("apiVersion", .text), ("fieldsType", .text),
      ("fieldsV1", .any), ("manager", .text), ("operation", .text), ("subresource", .text),
      ("time", .time)])),
    ("name", .text), ("namespace", .text),
    ("ownerReferences", .list (.record [("apiVersion", .text), ("blockOwnerDeletion", .bool),
      ("controller", .bool), ("kind", .text), ("name", .text), ("uid", .text)])),
    ("resourceVersion", .text), ("selfLink", .text), ("uid", .text)]

/-- The metadata of a list. -/
def listMeta : Shape :=
  .record [("continue", .text), ("remainingItemCount", .int64), ("resourceVersion", .text),
    ("selfLink", .text)]

end Shape

/-- The text of a field, empty if it is not there. -/
def textField (key : String) (j : Json) : String := ((j.field? key).bind Json.str?).getD ""

/-- The items of a field, none if it is not there. -/
def itemsField (key : String) (j : Json) : List Json := ((j.field? key).bind Json.items?).getD []

/-- The texts of a field, none if it is not there. -/
def textsField (key : String) (j : Json) : List String := (itemsField key j).filterMap Json.str?

end FleetGate.Api
