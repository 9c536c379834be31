import FleetGate.Json.Value
import FleetGate.Yaml.Atom
import FleetGate.Yaml.Tree

/-!
# YAML as JSON

A mapping has texts for keys: a key is a scalar, and its text counts as it stands.
Of two entries with one key the later counts.  A number that is not finite is null.
Tags of one's own are not understood.
-/

namespace FleetGate.Yaml

/-- An atom as JSON. -/
def Atom.toJson : Atom → Json
  | .null => .null
  | .bool b => .bool b
  | .int n => .int n
  | .float x => if x.isFinite then .float x else .null
  | .str s => .str s

namespace Tree

/-- Whether a tag is one's own and names something. -/
def isForeign (tag? : Option Tag) : Bool := (tag?.bind Tag.own?).isSome

mutual

/-- A tree as JSON. -/
def toJson? : Tree → Option Json
  | .scalar text plain tag? =>
      if isForeign tag? then none else (Atom.ofScalar? text plain tag?).map Atom.toJson
  | .seq items tag? => if isForeign tag? then none else (itemsToJson? items).map .arr
  | .map entries tag? =>
      if isForeign tag? then none else (entriesToJson? entries).map Json.object

/-- Items as JSON. -/
def itemsToJson? : List Tree → Option (List Json)
  | [] => some []
  | t :: ts => do
      let v ← toJson? t
      let vs ← itemsToJson? ts
      pure (v :: vs)

/-- Entries as fields. -/
def entriesToJson? : List (Tree × Tree) → Option (List (String × Json))
  | [] => some []
  | (.scalar key _ _, t) :: rest => do
      let v ← toJson? t
      let fields ← entriesToJson? rest
      pure ((key, v) :: fields)
  | _ :: _ => none

end

end Tree

/-- The JSON value of a text that is one document.  A text without any is null. -/
def json? (s : String) : Option Json :=
  match Node.documents s with
  | ([], true) => some .null
  | ([n], true) => n.tree?.bind Tree.toJson?
  | _ => none

end FleetGate.Yaml
