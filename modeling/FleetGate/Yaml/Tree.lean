import FleetGate.Yaml.Node

/-!
# YAML nodes without references

A reference stands for a node, which may hold references of its own, even to what
the reference is in.  `Node.tree?` puts the nodes in their place.  So that this ends,
and ends soon, there are two limits.

* At most 128 collections stand inside each other, whether references lie between
  them or not.
* At most a hundred references are followed for every step in which the document is
  read.
-/

namespace FleetGate.Yaml

/-- A node without references and names. -/
inductive Tree where
  /-- A text, and whether it is written plain. -/
  | scalar (text : String) (plain : Bool) (tag? : Option Tag)
  /-- A sequence. -/
  | seq (items : List Tree) (tag? : Option Tag)
  /-- A mapping.  Keys may repeat. -/
  | map (entries : List (Tree × Tree)) (tag? : Option Tag)
deriving Repr, Inhabited

namespace Node

/-- Puts nodes in the place of references.  The state is the number of references that
may still be followed. -/
abbrev Unfold := StateT Nat Option

/-- The node that a node is or refers to. -/
def target (known : List (Nat × Node)) : Node → Unfold Node
  | .reference id => fun
      | 0 => none
      | jumps + 1 => (known.find? (·.1 == id)).map fun (_, n) => (n, jumps)
  | n => pure n

/-- A node without references, with at most `depth` collections inside each other. -/
def unfold (known : List (Nat × Node)) : Nat → Node → Unfold Tree
  | depth, n => do
      match ← target known n, depth with
      | .scalar text plain props, _ => return .scalar text plain props.tag?
      | .seq items props, depth + 1 =>
          return .seq (← items.mapM (unfold known depth)) props.tag?
      | .map entries props, depth + 1 =>
          let entries ← entries.mapM fun (k, v) =>
            return (← unfold known depth k, ← unfold known depth v)
          return .map entries props.tag?
      | _, _ => failure

/-- The references that may be followed for every step of a document. -/
def jumpsPerStep : Nat := 100

/-- A document without references. -/
def tree? (n : Node) : Option Tree :=
  ((n.unfold n.numbered maxDepth).run (jumpsPerStep * n.steps)).map (·.1)

/-- A reference to what it is in has no tree. -/
example : (tree? (.seq [.reference 0] ⟨some 0, none⟩)).isNone = true := by decide +kernel

end Node

end FleetGate.Yaml
