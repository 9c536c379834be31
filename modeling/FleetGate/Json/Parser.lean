import FleetGate.Json.Draft
import FleetGate.Json.Number
import FleetGate.Text.Utf8

/-!
# Reading JSON

A value of any form is taken out of a draft strictly: texts must be sound, numbers must
be finite, and at most 127 arrays and objects may be open at once.  Of two entries with
one key the later counts.

A reader is told how many more arrays and objects may be open, its `room`.
-/

namespace FleetGate.Json

/-- The most arrays and objects that may be open at once. -/
def maxDepth : Nat := 127

namespace Draft

/-- The number that parts write. -/
def numberValue (parts : Numeric.Decimal.Parts) : Except Flaw Json :=
  match numberOf parts with
  | some value => .ok value
  | none => .error .malformed

/-- Nothing, if an array or an object does not break off. -/
def ended : Option Flaw → Except Flaw Unit
  | none => .ok ()
  | some flaw => .error flaw

/-- What is read inside an array or an object, for which there must be room. -/
def inside {α : Type} (room : Nat) (reader : Nat → Except Flaw α) : Except Flaw α :=
  match room with
  | 0 => .error .malformed
  | room + 1 => reader room

mutual

/-- The value of a draft. -/
def value (room : Nat) : Draft → Except Flaw Json
  | .null => .ok .null
  | .bool b => .ok (.bool b)
  | .number parts => numberValue parts
  | .stub wanted _ => .error wanted
  | .text written => written.value.map .str
  | .arr items flaw? => inside room fun room => do
      let values ← itemValues room items
      ended flaw?
      pure (.arr values)
  | .obj entries flaw? => inside room fun room => do
      let fields ← entryValues room entries
      ended flaw?
      pure (object fields)
  | .broken flaw => .error flaw

/-- The values of the items of an array. -/
def itemValues (room : Nat) : List Draft → Except Flaw (List Json)
  | [] => .ok []
  | item :: items => do
      let first ← value room item
      let rest ← itemValues room items
      pure (first :: rest)

/-- The keys and values of the entries of an object, in order. -/
def entryValues (room : Nat) : List (Written × Draft) → Except Flaw (List (String × Json))
  | [] => .ok []
  | (key, item) :: entries => do
      let name ← key.value
      let first ← value room item
      let rest ← entryValues room entries
      pure ((name, first) :: rest)

end

end Draft

/-- The value of a text, or why it has none. -/
def parse (s : String) : Except Flaw Json := Draft.readText (Draft.value maxDepth) s

/-- The value of a text. -/
def parse? (s : String) : Option Json := (parse s).toOption

/-- The value of a body.  Bytes that are not text are no JSON. -/
def ofBytes? (body : List UInt8) : Option Json := (Text.Utf8.decode? body).bind parse?

end FleetGate.Json
