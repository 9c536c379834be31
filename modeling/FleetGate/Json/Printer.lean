import FleetGate.Json.Value
import FleetGate.Numeric.Shortest

/-!
# Writing JSON

Values are written without spaces.  In a text the quote, the backslash and the
control characters below the space are escaped, five of these by a letter and
the others by their code.  Floating-point numbers are written with the fewest
digits that read back, and one that is not finite is written `null`.
-/

namespace FleetGate.Json

/-- A control character by its code, in four hexadecimal digits. -/
def controlEscape (c : Char) : List Char :=
  let ds := Nat.toDigits 16 c.toNat
  ['\\', 'u'] ++ List.replicate (4 - ds.length) '0' ++ ds

/-- One character of a text. -/
def escapeChar (c : Char) : List Char :=
  match c with
  | '"' => ['\\', '"']
  | '\\' => ['\\', '\\']
  | '\x08' => ['\\', 'b']
  | '\x0c' => ['\\', 'f']
  | '\n' => ['\\', 'n']
  | '\r' => ['\\', 'r']
  | '\t' => ['\\', 't']
  | c => if c.toNat < 0x20 then controlEscape c else [c]

/-- A text between quotes. -/
def textOf (s : String) : String :=
  String.ofList ('"' :: s.toList.flatMap escapeChar ++ ['"'])

/-- A floating-point number. -/
def floatText (x : Numeric.Binary) : String :=
  if x.isFinite then x.compactText Numeric.binary64 else "null"

mutual

/-- The text of a value. -/
def render : Json → String
  | .null => "null"
  | .bool b => if b then "true" else "false"
  | .int n => toString n
  | .float x => floatText x
  | .str s => textOf s
  | .arr items => "[" ++ ",".intercalate (renderItems items) ++ "]"
  | .obj fields => "\x7b" ++ ",".intercalate (renderFields fields) ++ "\x7d"

/-- The texts of the items of an array. -/
def renderItems : List Json → List String
  | [] => []
  | item :: items => render item :: renderItems items

/-- The texts of the fields of an object. -/
def renderFields : List (String × Json) → List String
  | [] => []
  | (key, value) :: fields => (textOf key ++ ":" ++ render value) :: renderFields fields

end

end FleetGate.Json
