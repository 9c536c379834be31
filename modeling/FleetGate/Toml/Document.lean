import FleetGate.Toml.Scalar

/-!
# TOML documents

A document is read in two steps.  First it is taken apart into sections, each a
header and the pairs below it.  Then the sections are put into one tree, which
is where a document can contradict itself.

* A key may be given once.
* A table may have one header.  A table that only came to be because a header or
  a dotted key passed through it may still get its own, unless a dotted key made
  it.
* A dotted key passes through tables that it may extend: those that no header
  has defined.
* A header with double brackets adds an element to an array that only such
  headers make.

Arrays and inline tables nest less than eighty levels.
-/

namespace FleetGate.Toml

open Text Text.Reader

/-! ## The tree -/

/-- A place in a document while it is put together. -/
inductive Node where
  /-- A value that is complete. -/
  | leaf (value : Toml)
  /-- A table.  `implicit` says that it has no header of its own, `dotted` that a
  dotted key made it. -/
  | table (implicit dotted : Bool) (fields : List (String × Node))
  /-- The tables of an array that headers make, the last one first. -/
  | elements (tables : List (List (String × Node)))

mutual

/-- The value of a place. -/
def Node.value : Node → Toml
  | .leaf v => v
  | .table _ _ fields => .table (fieldValues fields)
  | .elements tables => .arr (tableValues tables).reverse

/-- The values of the fields of a table. -/
def fieldValues : List (String × Node) → List (String × Toml)
  | [] => []
  | (key, node) :: fields => (key, node.value) :: fieldValues fields

/-- The values of a list of tables. -/
def tableValues : List (List (String × Node)) → List Toml
  | [] => []
  | fields :: tables => .table (fieldValues fields) :: tableValues tables

end

/-- Puts a value at a dotted key of a table. -/
def putPair (value : Toml) : List String → Fields Node → Option (Fields Node)
  | [], _ => none
  | [k], fields =>
      match Fields.get? k fields with
      | none => some (Fields.insert k (.leaf value) fields)
      | some _ => none
  | k :: rest, fields =>
      match Fields.get? k fields with
      | none => do
          let inner ← putPair value rest []
          pure (Fields.insert k (.table true true inner) fields)
      | some (.table implicit dotted inner) =>
          if !implicit || (rest.length == 1 && !dotted) then none
          else do
            let inner ← putPair value rest inner
            pure (Fields.insert k (.table implicit dotted inner) fields)
      | some (.elements (last :: others)) =>
          if rest.length == 1 then none
          else do
            let last ← putPair value rest last
            pure (Fields.insert k (.elements (last :: others)) fields)
      | some _ => none

/-- Puts several values at the dotted keys of a table. -/
def putPairs (fields : Fields Node) (pairs : List (List String × Toml)) : Option (Fields Node) :=
  pairs.foldlM (fun fields (path, value) => putPair value path fields) fields

/-- Defines a table or an element of an array at the place of a header. -/
def putSection (element : Bool) (pairs : List (List String × Toml)) :
    List String → Fields Node → Option (Fields Node)
  | [], _ => none
  | [k], fields =>
      match element, Fields.get? k fields with
      | true, none => do pure (Fields.insert k (.elements [← putPairs [] pairs]) fields)
      | true, some (.elements tables) => do
          pure (Fields.insert k (.elements ((← putPairs [] pairs) :: tables)) fields)
      | false, none => do pure (Fields.insert k (.table false false (← putPairs [] pairs)) fields)
      | false, some (.table true false inner) => do
          pure (Fields.insert k (.table false false (← putPairs inner pairs)) fields)
      | _, _ => none
  | k :: rest, fields =>
      match Fields.get? k fields with
      | none => do
          let inner ← putSection element pairs rest []
          pure (Fields.insert k (.table true false inner) fields)
      | some (.table implicit dotted inner) => do
          let inner ← putSection element pairs rest inner
          pure (Fields.insert k (.table implicit dotted inner) fields)
      | some (.elements (last :: others)) => do
          let last ← putSection element pairs rest last
          pure (Fields.insert k (.elements (last :: others)) fields)
      | some _ => none

/-! ## Values -/

/-- Blanks, line ends and comments between the items of an array. -/
def gaps : Nat → Reader Unit
  | 0 => failure
  | fuel + 1 => do
      spaces
      match ← peek with
      | some '#' => do comment; lineEnd; gaps fuel
      | some '\n' | some '\r' => do lineEnd; gaps fuel
      | _ => pure ()

/-- Blanks, line ends and comments, however many. -/
def gap : Reader Unit := fun cs => gaps (cs.length + 1) cs

/-- The deepest that arrays and inline tables nest. -/
def maxNesting : Nat := 79

mutual

/-- A value inside so many arrays and inline tables. -/
def nested : Nat → Nat → Reader Toml
  | 0, _ => failure
  | fuel + 1, depth => do
      match ← peek with
      | some '[' =>
          if maxNesting ≤ depth then failure
          else do
            char '['
            gap
            if ← tryChar ']' then pure (.arr [])
            else pure (.arr (← arrayItems fuel (depth + 1)))
      | some '\x7b' =>
          if maxNesting ≤ depth then failure
          else do
            char '\x7b'
            spaces
            if ← tryChar '\x7d' then pure (.table [])
            else
              let pairs ← inlinePairs fuel (depth + 1)
              match putPairs [] pairs with
              | some fields => pure (.table (fieldValues fields))
              | none => failure
      | _ => scalar

/-- The items of an array up to its end, at least one. -/
def arrayItems : Nat → Nat → Reader (List Toml)
  | 0, _ => failure
  | fuel + 1, depth => do
      gap
      let item ← nested fuel depth
      gap
      if ← tryChar ',' then
        gap
        if ← tryChar ']' then pure [item]
        else
          let items ← arrayItems fuel depth
          pure (item :: items)
      else
        char ']'
        pure [item]

/-- The pairs of an inline table up to its end, at least one. -/
def inlinePairs : Nat → Nat → Reader (List (List String × Toml))
  | 0, _ => failure
  | fuel + 1, depth => do
      let path ← key
      char '='
      spaces
      let value ← nested fuel depth
      spaces
      if ← tryChar ',' then
        let pairs ← inlinePairs fuel depth
        pure ((path, value) :: pairs)
      else
        char '\x7d'
        pure [(path, value)]

end

/-- A value. -/
def value : Reader Toml := fun cs => nested (2 * cs.length + 2) 0 cs

/-! ## Sections -/

/-- A header and the pairs below it.  The pairs at the top have no header. -/
structure Section where
  /-- The key of the header, empty for the top. -/
  path : List String
  /-- Whether the header adds an element to an array. -/
  element : Bool
  /-- The pairs, in order. -/
  pairs : List (List String × Toml)

/-- The end of a line of a document, with an optional comment before it. -/
def trailing : Reader Unit := do
  spaces
  let _ ← maybe comment
  if ← isDone then pure () else lineEnd

/-- A header: its key and whether it adds an element. -/
def header : Reader (List String × Bool) := do
  char '['
  let element ← tryChar '['
  let path ← key
  char ']'
  if element then char ']'
  trailing
  pure (path, element)

/-- A pair of a key and a value. -/
def pair : Reader (List String × Toml) := do
  let path ← key
  char '='
  spaces
  let v ← value
  trailing
  pure (path, v)

/-- The sections of a document.  Those that are complete are in reverse. -/
def sections : Nat → Section → List Section → Reader (List Section)
  | 0, _, _ => failure
  | fuel + 1, current, done => do
      spaces
      match ← peek with
      | none => pure (({ current with pairs := current.pairs.reverse } :: done).reverse)
      | some '#' => do comment; trailing; sections fuel current done
      | some '\n' | some '\r' => do lineEnd; sections fuel current done
      | some '[' => do
          let (path, element) ← header
          sections fuel ⟨path, element, []⟩
            ({ current with pairs := current.pairs.reverse } :: done)
      | some _ => do
          let p ← pair
          sections fuel { current with pairs := p :: current.pairs } done

/-- Puts a section into the tree. -/
def place (fields : Fields Node) (s : Section) : Option (Fields Node) :=
  if s.path.isEmpty then putPairs fields s.pairs else putSection s.element s.pairs s.path fields

/-- The table of a document.  A byte order mark at its start is dropped. -/
def parse? (s : String) : Option Toml := do
  let cs := match s.toList with
    | '\ufeff' :: cs => cs
    | cs => cs
  let (parts, _) ← sections (cs.length + 2) ⟨[], false, []⟩ [] cs
  let fields ← parts.foldlM place []
  pure (.table (fieldValues fields))

end FleetGate.Toml
