import FleetGate.Json.Value
import FleetGate.Yaml.Atom
import FleetGate.Yaml.Tree

/-!
# YAML values

What a YAML document says, with nothing of it lost: keys are values of any kind, and a
tag of one's own stands around the value that it belongs to.  Other tags are gone once
they have said what a scalar means.

No two keys of a mapping are the same.  `Value.same` says when they are: entries may
come in any order, `1` is not `1.0`, and numbers that are none are all alike.  A
document that breaks this has no value.
-/

namespace FleetGate.Yaml

/-- A YAML value. -/
inductive Value where
  /-- What a scalar means. -/
  | atom (a : Atom)
  /-- A sequence. -/
  | seq (items : List Value)
  /-- A mapping. -/
  | map (entries : List (Value × Value))
  /-- A value with the name of its tag. -/
  | tagged (name : String) (content : Value)
deriving Repr, Inhabited

namespace Value

/-- Null. -/
def null : Value := .atom .null

/-- The text of a string. -/
def str (s : String) : Value := .atom (.str s)

/-- A value without its tag. -/
def untagged : Value → Value
  | .tagged _ v => untagged v
  | v => v

/-! ## Sameness -/

/-- Whether two numbers are the same. -/
def sameNumber : Numeric.Binary → Numeric.Binary → Bool
  | .nan _, .nan _ => true
  | .infinite a, .infinite b => a == b
  | .finite a m e, .finite b n f => (m == 0 && n == 0) || (a == b && m == n && e == f)
  | _, _ => false

/-- Whether two atoms are the same. -/
def sameAtom : Atom → Atom → Bool
  | .float x, .float y => sameNumber x y
  | a, b => a == b

/-- The name of a tag without an exclamation mark before it, unless it is one. -/
def bareName (name : String) : String :=
  match name.toList with
  | '!' :: c :: cs => String.ofList (c :: cs)
  | _ => name

mutual

/-- Whether two values are the same. -/
def same : Value → Value → Bool
  | .atom a, .atom b => sameAtom a b
  | .seq a, .seq b => sameItems a b
  | .map a, .map b => a.length == b.length && sameEntries a b
  | .tagged s a, .tagged t b => bareName s == bareName t && same a b
  | _, _ => false

/-- Whether two lists of values are the same. -/
def sameItems : List Value → List Value → Bool
  | [], [] => true
  | a :: as, b :: bs => same a b && sameItems as bs
  | _, _ => false

/-- Whether every entry is among others. -/
def sameEntries : List (Value × Value) → List (Value × Value) → Bool
  | [], _ => true
  | (k, v) :: rest, others => others.any (fun (l, w) => same k l && same v w) &&
      sameEntries rest others

end

example : same (.atom (.int 1)) (.atom (.str "1")) = false ∧
    same (.map [(str "a", null), (str "b", null)]) (.map [(str "b", null), (str "a", null)]) = true ∧
    same (.tagged "!x" null) (.tagged "x" null) = true := by decide +kernel

/-- Whether some key stands twice. -/
def repeatsKey : List (Value × Value) → Bool
  | [] => false
  | (k, _) :: rest => rest.any (fun (l, _) => same k l) || repeatsKey rest

/-! ## Reading -/

/-- A value, in its tag if that is one's own. -/
def within (tag? : Option Tag) (v : Value) : Value :=
  match tag?.bind Tag.own? with
  | some name => .tagged name v
  | none => v

mutual

/-- The value of a tree. -/
def ofTree? : Tree → Option Value
  | .scalar text plain tag? =>
      (Atom.ofScalar? text plain tag?).map fun a => within tag? (.atom a)
  | .seq items tag? => (ofItems? items).map fun vs => within tag? (.seq vs)
  | .map entries tag? => do
      let entries ← ofEntries? entries
      if repeatsKey entries then none else pure (within tag? (.map entries))

/-- The values of items. -/
def ofItems? : List Tree → Option (List Value)
  | [] => some []
  | t :: ts => do
      let v ← ofTree? t
      let vs ← ofItems? ts
      pure (v :: vs)

/-- The values of entries. -/
def ofEntries? : List (Tree × Tree) → Option (List (Value × Value))
  | [] => some []
  | (k, t) :: rest => do
      let key ← ofTree? k
      let v ← ofTree? t
      let vs ← ofEntries? rest
      pure ((key, v) :: vs)

end

/-- The value of a document. -/
def ofNode? (n : Node) : Option Value := n.tree?.bind ofTree?

/-! ## JSON -/

mutual

/-- A JSON value as a YAML value. -/
def ofJson : Json → Value
  | .null => .atom .null
  | .bool b => .atom (.bool b)
  | .int n => .atom (.int n)
  | .float x => .atom (.float x)
  | .str s => .atom (.str s)
  | .arr items => .seq (ofJsonItems items)
  | .obj fields => .map (ofJsonFields fields)

/-- JSON values as items. -/
def ofJsonItems : List Json → List Value
  | [] => []
  | j :: js => ofJson j :: ofJsonItems js

/-- Fields as entries. -/
def ofJsonFields : List (String × Json) → List (Value × Value)
  | [] => []
  | (key, j) :: rest => (str key, ofJson j) :: ofJsonFields rest

end

end Value

end FleetGate.Yaml
