import FleetGate.Url.Percent

/-!
# Forms

A form is a list of names with values, written as one line: a name, an equals sign and
a value, with an ampersand between fields.  Letters and digits of ASCII and four signs
stand for themselves, a blank is written as a plus sign, and every other byte after a
percent sign.
-/

namespace FleetGate.Form

/-- Whether a character stands for itself. -/
def isPlain (c : Char) : Bool := c.isAlphanum || "*-._".toList.contains c

/-- The characters that a character is written as. -/
def encodeChar (c : Char) : List Char :=
  if isPlain c then [c]
  else if c == ' ' then ['+']
  else (String.utf8EncodeChar c).flatMap Url.percentByte

/-- A name or a value. -/
def encodeText (s : String) : String := String.ofList (s.toList.flatMap encodeChar)

/-- A form. -/
def encode (fields : List (String × String)) : String :=
  "&".intercalate (fields.map fun (name, value) => encodeText name ++ "=" ++ encodeText value)

end FleetGate.Form
