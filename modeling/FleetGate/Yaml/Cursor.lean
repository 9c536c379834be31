/-!
# Places in a YAML text

A reader of YAML must know the column it is at, since indentation carries
meaning, and the line, since a key must stand on one.  A cursor is what is left of
the text with both.

Line ends are made alike before reading: `normalize?` writes each of them as a
line feed.  It also refuses characters that no YAML text may hold.  A byte order
mark at the very start is passed over, and it counts as a column.
-/

namespace FleetGate.Yaml

/-- What is left of a text, and where it begins. -/
structure Cursor where
  /-- The characters that are left. -/
  rest : List Char
  /-- The characters before it on its line. -/
  column : Nat
  /-- The lines before it. -/
  line : Nat
  /-- The characters before it. -/
  offset : Nat
deriving Repr, Inhabited

/-- Whether a character ends a line. -/
def isBreak (c : Char) : Bool := c == '\n' || c == '\u2028' || c == '\u2029'

/-- Whether a character is a blank. -/
def isBlank (c : Char) : Bool := c == ' ' || c == '\t'

/-- Whether what follows a mark sets it off: a blank, the end of the line or the
end of the text. -/
def isApart : List Char → Bool
  | [] => true
  | c :: _ => isBlank c || isBreak c

/-- Whether a character may stand in a YAML text. -/
def isAllowed (c : Char) : Bool :=
  let n := c.toNat
  n == 0x9 || n == 0xa || n == 0xd || (0x20 ≤ n && n ≤ 0x7e) || n == 0x85 ||
    (0xa0 ≤ n && n ≤ 0xfffd) || 0x10000 ≤ n

/-- Every line end as a line feed. -/
def unifyBreaks : List Char → List Char
  | [] => []
  | '\r' :: '\n' :: cs => '\n' :: unifyBreaks cs
  | c :: cs => (if c == '\r' || c == '\u0085' then '\n' else c) :: unifyBreaks cs

/-- The characters to read, if all of them may stand in a YAML text. -/
def normalize? (s : String) : Option (List Char) :=
  if s.toList.all isAllowed then some (unifyBreaks s.toList) else none

namespace Cursor

/-- The start of a text. -/
def start (cs : List Char) : Cursor := ⟨cs, 0, 0, 0⟩

/-- One character on. -/
def next (k : Cursor) : Cursor :=
  match k.rest with
  | [] => k
  | c :: cs =>
      if isBreak c then ⟨cs, 0, k.line + 1, k.offset + 1⟩
      else ⟨cs, k.column + 1, k.line, k.offset + 1⟩

/-- Some characters on. -/
def skip : Nat → Cursor → Cursor
  | 0, k => k
  | n + 1, k => skip n k.next

/-- Past the byte order mark that a text may begin with. -/
def skipMark (k : Cursor) : Cursor :=
  if k.offset == 0 && k.rest.head? == some '\ufeff' then k.next else k

/-- Past the characters at the front that pass a test. -/
def skipWhile (p : Char → Bool) (k : Cursor) : Cursor :=
  k.skip (k.rest.takeWhile p).length

/-- The character here. -/
def head? (k : Cursor) : Option Char := k.rest.head?

/-- Whether a line of three marks begins here. -/
def isAtMarks (c : Char) (k : Cursor) : Bool :=
  k.column == 0 && [c, c, c].isPrefixOf k.rest && isApart (k.rest.drop 3)

/-- Whether a document begins or ends here. -/
def isAtBoundary (k : Cursor) : Bool := k.isAtMarks '-' || k.isAtMarks '.'

end Cursor

end FleetGate.Yaml
