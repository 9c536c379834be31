import FleetGate.Yaml.Token

/-!
# Nodes of a YAML text

A text holds documents, and a document is a node: a scalar, a sequence or a
mapping.  A node may have a tag.  What is left empty is a plain scalar without
characters.

A node may have a name, by which a reference stands for it.  Names are numbered as
they come: a name that is new gets the number of names before it, and one that is
given again gets the number of all names so far.  So a number may be given twice,
and then it is that of the node that begins later.  A reference takes the number
that its name has where it stands, and a name must come before it.

The first document need not be announced.  Every other one is, by three dashes.
-/

namespace FleetGate.Yaml

/-- What is said of a node besides its content. -/
structure Properties where
  /-- The number of its name. -/
  id? : Option Nat := none
  tag? : Option Tag := none
deriving DecidableEq, Repr, Inhabited

/-- A node. -/
inductive Node where
  /-- A text, and whether it is written plain. -/
  | scalar (text : String) (plain : Bool) (props : Properties)
  /-- A sequence. -/
  | seq (items : List Node) (props : Properties)
  /-- A mapping.  Keys may repeat. -/
  | map (entries : List (Node × Node)) (props : Properties)
  /-- A reference to the node of a number. -/
  | reference (id : Nat)
deriving Repr, Inhabited

namespace Node

/-- What nothing stands for. -/
def empty : Node := .scalar "" true {}

/-- What is said of a node. -/
def props : Node → Properties
  | .scalar _ _ props => props
  | .seq _ props => props
  | .map _ props => props
  | .reference _ => {}

mutual

/-- The nodes in a node, itself first and the others in the order in which they begin. -/
def all : Node → List Node
  | .seq items props => .seq items props :: allItems items
  | .map entries props => .map entries props :: allEntries entries
  | n => [n]

/-- The nodes in some nodes. -/
def allItems : List Node → List Node
  | [] => []
  | n :: ns => all n ++ allItems ns

/-- The nodes in some entries. -/
def allEntries : List (Node × Node) → List Node
  | [] => []
  | (k, v) :: rest => all k ++ all v ++ allEntries rest

end

/-- The nodes with numbers, the last one first. -/
def numbered (n : Node) : List (Nat × Node) :=
  (n.all.filterMap fun m => m.props.id?.map (·, m)).reverse

/-- Whether a node begins and ends apart from what is in it. -/
def isCollection : Node → Bool
  | .seq .. | .map .. => true
  | _ => false

/-- The steps in which a node is read: one for what has no parts, and two for the
begin and the end of what has. -/
def steps (n : Node) : Nat :=
  n.all.foldl (fun count m => count + if m.isCollection then 2 else 1) 0

end Node

/-- What is left of the tokens, and what is known of the document. -/
structure Composer where
  tokens : List Token
  /-- The numbers of the names. -/
  names : List (String × Nat) := []
  /-- The short forms of tags that are declared. -/
  shorts : List (String × List UInt8) := []

/-- Takes a node off the front of the tokens. -/
abbrev Compose := StateT Composer Option

namespace Compose

/-- The token at the front, which stays there.  The end of the text is none, and what
is no token cannot be read. -/
def peek : Compose (Option Token) := fun s =>
  match s.tokens with
  | .broken :: _ => none
  | ts => some (ts.head?, s)

/-- Drops the token at the front. -/
def skip : Compose Unit := fun s => some ((), { s with tokens := s.tokens.tail })

/-- Whether the token at the front is one of some. -/
def isAt (ts : List Token) : Compose Bool := do return (← peek).any ts.contains

/-- Whether the token at the front is a certain one, which is dropped if so. -/
def takes (t : Token) : Compose Bool := do
  if (← peek) == some t then
    skip
    return true
  else return false

/-! ## Names and tags -/

/-- The number that a name gets. -/
def introduce (name : String) : Compose Nat := fun s =>
  let id := s.names.length
  some (id, { s with names := (name, id) :: s.names.filter (·.1 != name) })

/-- The node that a name refers to. -/
def referenced (name : String) : Compose Node := fun s =>
  (s.names.find? (·.1 == name)).map fun (_, id) => (.reference id, s)

/-- The whole tag of a written one. -/
def wholeTag (written : Tag.Written) : Compose Tag := fun s =>
  (written.whole? s.shorts).map (·, s)

/-- The name and the tag before a node, in either order. -/
def properties : Compose Properties := do
  match ← peek with
  | some (.anchor name) =>
      skip
      let id ← introduce name
      match ← peek with
      | some (.tag written) => skip; return ⟨some id, some (← wholeTag written)⟩
      | _ => return ⟨some id, none⟩
  | some (.tag written) =>
      skip
      let tag ← wholeTag written
      match ← peek with
      | some (.anchor name) => skip; return ⟨some (← introduce name), some tag⟩
      | _ => return ⟨none, some tag⟩
  | _ => return {}

/-- What is said of a scalar.  An exclamation mark alone says nothing. -/
def ofScalar (props : Properties) : Properties :=
  { props with tag? := props.tag?.filter (· != Tag.bare) }

/-- A node without content.  It must have a name or a tag. -/
def unfilled (props : Properties) : Compose Node :=
  if props == {} then failure else pure (.scalar "" true props)

/-! ## Nodes -/

mutual

/-- A node.  In a block it may be a block itself, and after a key the items of a
sequence need not be indented.  `depth` counts the collections around it. -/
def node (block indentless : Bool) (depth : Nat) : Nat → Compose Node
  | 0 => failure
  | fuel + 1 => do
      if let some (.reference name) ← peek then
        skip
        return (← referenced name)
      let props ← properties
      let inside (content : Compose Node) : Compose Node :=
        if maxDepth ≤ depth then failure else content
      match ← peek with
      | some (.scalar text plain) => skip; return .scalar text plain (ofScalar props)
      | some .openBracket => skip; inside (flowItems true [] props (depth + 1) fuel)
      | some .openBrace => skip; inside (flowEntries true [] props (depth + 1) fuel)
      | some .item =>
          if indentless then inside (looseItems [] props (depth + 1) fuel) else unfilled props
      | some .blockSequence =>
          if block then skip; inside (blockItems [] props (depth + 1) fuel) else unfilled props
      | some .blockMapping =>
          if block then skip; inside (blockEntries [] props (depth + 1) fuel) else unfilled props
      | _ => unfilled props
termination_by structural fuel => fuel

/-- A node, or nothing if one of some tokens is at the front. -/
def nodeUnless (stops : List Token) (block indentless : Bool) (depth : Nat) : Nat → Compose Node
  | 0 => failure
  | fuel + 1 => do
      if ← isAt stops then return .empty
      else node block indentless depth fuel
termination_by structural fuel => fuel

/-- The items of a sequence in a block. -/
def blockItems (items : List Node) (props : Properties) (depth : Nat) : Nat → Compose Node
  | 0 => failure
  | fuel + 1 => do
      if ← takes .item then
        let n ← nodeUnless [.item, .blockEnd] true false depth fuel
        blockItems (n :: items) props depth fuel
      else if ← takes .blockEnd then return .seq items.reverse props
      else failure
termination_by structural fuel => fuel

/-- The items of a sequence that are not indented. -/
def looseItems (items : List Node) (props : Properties) (depth : Nat) : Nat → Compose Node
  | 0 => failure
  | fuel + 1 => do
      if ← takes .item then
        let n ← nodeUnless [.item, .key, .value, .blockEnd] true false depth fuel
        looseItems (n :: items) props depth fuel
      else return .seq items.reverse props
termination_by structural fuel => fuel

/-- The entries of a mapping in a block. -/
def blockEntries (entries : List (Node × Node)) (props : Properties) (depth : Nat) :
    Nat → Compose Node
  | 0 => failure
  | fuel + 1 => do
      if ← takes .key then
        let key ← nodeUnless [.key, .value, .blockEnd] true true depth fuel
        if ← takes .value then
          let value ← nodeUnless [.key, .value, .blockEnd] true true depth fuel
          blockEntries ((key, value) :: entries) props depth fuel
        else blockEntries ((key, .empty) :: entries) props depth fuel
      else if ← takes .blockEnd then return .map entries.reverse props
      else failure
termination_by structural fuel => fuel

/-- The items of a sequence between brackets.  An item may be a key and its value. -/
def flowItems (first : Bool) (items : List Node) (props : Properties) (depth : Nat) :
    Nat → Compose Node
  | 0 => failure
  | fuel + 1 => do
      if ← takes .closeBracket then return .seq items.reverse props
      else if !first && !(← takes .comma) then failure
      else if ← takes .closeBracket then return .seq items.reverse props
      else if ← takes .key then
        let key ← loneKey (depth + 1) fuel
        let value ← flowValue .closeBracket (depth + 1) fuel
        flowItems false (.map [(key, value)] {} :: items) props depth fuel
      else
        let n ← node false false depth fuel
        flowItems false (n :: items) props depth fuel
termination_by structural fuel => fuel

/-- The key of an item between brackets.  A token that ends it at once is lost. -/
def loneKey (depth : Nat) : Nat → Compose Node
  | 0 => failure
  | fuel + 1 => do
      if ← isAt [.value, .comma, .closeBracket] then
        skip
        return .empty
      else node false false depth fuel
termination_by structural fuel => fuel

/-- The value after a key between brackets or braces. -/
def flowValue (close : Token) (depth : Nat) : Nat → Compose Node
  | 0 => failure
  | fuel + 1 => do
      if ← takes .value then nodeUnless [.comma, close] false false depth fuel
      else return .empty
termination_by structural fuel => fuel

/-- The entries of a mapping between braces. -/
def flowEntries (first : Bool) (entries : List (Node × Node)) (props : Properties)
    (depth : Nat) : Nat → Compose Node
  | 0 => failure
  | fuel + 1 => do
      if ← takes .closeBrace then return .map entries.reverse props
      else if !first && !(← takes .comma) then failure
      else if ← takes .closeBrace then return .map entries.reverse props
      else if ← takes .key then
        let key ← nodeUnless [.value, .comma, .closeBrace] false false depth fuel
        let value ← flowValue .closeBrace depth fuel
        flowEntries false ((key, value) :: entries) props depth fuel
      else
        let key ← node false false depth fuel
        flowEntries false ((key, .empty) :: entries) props depth fuel
termination_by structural fuel => fuel

end

/-! ## Documents -/

/-- Drops the marks that end documents. -/
def skipEnds : Nat → Compose Unit
  | 0 => pure ()
  | fuel + 1 => do
      if ← takes .documentEnd then skipEnds fuel

/-- Reads what is said before a document, and whether anything was.  The version is
said once at most, and each short form too. -/
def directives (version : Bool) (shorts : List (String × List UInt8)) : Nat → Compose Bool
  | 0 => failure
  | fuel + 1 => do
      match ← peek with
      | some (.directive (.version major minor)) =>
          if version || major != 1 || (minor != 1 && minor != 2) then failure
          else
            skip
            directives true shorts fuel
      | some (.directive (.short handle full)) =>
          if shorts.any (·.1 == handle) then failure
          else
            skip
            directives version ((handle, full) :: shorts) fuel
      | _ =>
          modify fun s => { s with names := [], shorts := shorts }
          return version || !shorts.isEmpty

/-- Whether a document that is announced has no node. -/
def isHollow : Compose Bool := do
  match ← peek with
  | none | some .documentStart | some .documentEnd | some (.directive _) => return true
  | _ => return false

/-- The next document, if there is one.  Marks that end documents may stand before any
but the first. -/
def document (first : Bool) : Compose (Option Node) := do
  let fuel := (← get).tokens.length + 1
  if !first then skipEnds fuel
  if (← peek).isNone then return none
  let said ← directives false [] fuel
  let announced ← takes .documentStart
  if !announced && (said || !first) then failure
  else
    let n ← if announced && (← isHollow) then pure Node.empty else node true false 0 (4 * fuel + 4)
    let _ ← takes .documentEnd
    return some n

/-- The documents that are left, and whether the text is whole. -/
def documents (first : Bool) (s : Composer) : Nat → List Node × Bool
  | 0 => ([], false)
  | fuel + 1 =>
      match (document first).run s with
      | none => ([], false)
      | some (none, _) => ([], true)
      | some (some n, s) =>
          let (ns, whole) := documents false s fuel
          (n :: ns, whole)

end Compose

/-- The documents of a text, up to where it is no YAML, and whether it is YAML to its
end. -/
def Node.documents (s : String) : List Node × Bool :=
  let tokens := Token.lex s
  Compose.documents true { tokens := tokens } (tokens.length + 2)

end FleetGate.Yaml
