import FleetGate.Text.Unprintable

/-!
# Quoted text

A name inside a message is written between double quotes, and every character
that a reader could not see is written by its code.

* A quote, a backslash, the line end, the carriage return, the tab and the null
  character have a short form after a backslash.
* An unprintable character, and one that extends the character before it, is written
  `\u` and its code in hexadecimal digits between braces, without leading zeros.

The single quote is written as it is.
-/

namespace FleetGate.Text

/-- A code point between braces after `\u`. -/
def codeEscape (c : Char) : List Char :=
  '\\' :: 'u' :: '\x7b' :: Nat.toDigits 16 c.toNat ++ ['\x7d']

/-- One character of a quoted text. -/
def quotedChar (c : Char) : List Char :=
  match c with
  | '"' => ['\\', '"']
  | '\\' => ['\\', '\\']
  | '\n' => ['\\', 'n']
  | '\r' => ['\\', 'r']
  | '\t' => ['\\', 't']
  | '\x00' => ['\\', '0']
  | c => if isUnprintable c || isExtending c then codeEscape c else [c]

/-- The characters of a quoted text, without the quotes around them. -/
def quotedChars (cs : List Char) : List Char := cs.flatMap quotedChar

/-- A text between double quotes, as messages write names. -/
def quoted (s : String) : String :=
  String.ofList ('"' :: quotedChars s.toList ++ ['"'])

/-- A list of quoted texts between brackets, as messages write lists of names. -/
def quotedList (names : List String) : String :=
  "[" ++ ", ".intercalate (names.map quoted) ++ "]"

end FleetGate.Text
