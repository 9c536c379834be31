import FleetGate.FleetError
import FleetGate.Path
import FleetGate.Toml.Decode

/-!
# Tables that others own

A configuration has tables whose form it does not know: those of providers and
those of toolsets, each by name.  A registry holds a reader for each known
name.  Resolving the tables reads those with a known name, in byte order of
their names, and stops at the first failure.  Tables without a reader are left
alone.
-/

namespace FleetGate.Config

/-- Where a configuration was read, which is what relative paths in it start
from. -/
abbrev Origin := Option String

/-- A path that a configuration names. -/
def resolvePath (origin : Origin) (path : String) : String :=
  match origin with
  | some dir => Path.join dir path
  | none => path

/-- How the tables of one name are read. -/
structure TableReader (α : Type) where
  /-- Reads a table. -/
  read : Origin → Toml → Except String α
  /-- Refuses what contradicts itself. -/
  check : α → Except String Unit

/-- Readers by the names of their tables. -/
structure TableRegistry (α : Type) where
  /-- What the tables belong to, as failures name it. -/
  kind : String
  /-- The readers. -/
  readers : Fields (TableReader α)

namespace TableRegistry

variable {α : Type}

/-- A registry without readers. -/
def empty (kind : String) : TableRegistry α := ⟨kind, []⟩

/-- Whether tables of a name are read. -/
def has (r : TableRegistry α) (name : String) : Bool := (Fields.get? name r.readers).isSome

/-- Adds a reader.  A name may have one reader only. -/
def register (r : TableRegistry α) (name : String) (reader : TableReader α) :
    Except String (TableRegistry α) :=
  if r.has name then
    .error (r.kind ++ " config parser " ++ Text.quoted name ++ " is already registered")
  else .ok { r with readers := Fields.insert name reader r.readers }

/-- The text that describes a registry. -/
def describe (r : TableRegistry α) : String :=
  "ExtendedConfigRegistry \x7b kind: " ++ Text.quoted r.kind ++ ", parsers: " ++
    Text.quotedList (r.readers.map (·.1)) ++ " \x7d"

/-- Reads and checks one table. -/
def readTable (reader : TableReader α) (origin : Origin) (t : Toml) : Except String α := do
  let a ← reader.read origin t
  reader.check a
  pure a

/-- Reads the tables whose names have readers. -/
def resolve (r : TableRegistry α) (origin : Origin) :
    Fields Toml → Except ConfigError (Fields α)
  | [] => .ok []
  | (name, t) :: tables =>
      match Fields.get? name r.readers with
      | none => r.resolve origin tables
      | some reader =>
          match readTable reader origin t with
          | .error reason => .error (.badTable r.kind name reason)
          | .ok a => (r.resolve origin tables).map ((name, a) :: ·)

end TableRegistry

end FleetGate.Config
