import FleetGate.Numeric.Decimal
import FleetGate.Text.Utf8
import FleetGate.Yaml.Cursor

/-!
# Tags of YAML nodes

A tag says what a node is.  It is written in one of three ways.

* `!<full>` gives the whole tag.
* `!name!rest` gives a short form and what follows it.  A short form stands for the
  beginning of a tag, and directives declare it.
* `!rest` uses the short form of one exclamation mark, and `!` alone is a tag by
  itself.

A percent sign and two digits stand for a byte.  The bytes that follow each other
must look like characters, but a tag is not a text: only one of one's own, which
begins with an exclamation mark, is read as one.  A tag ends before a zero byte.
-/

namespace FleetGate.Yaml

/-- A tag, as its bytes. -/
structure Tag where
  bytes : List UInt8
deriving DecidableEq, Repr, Inhabited

namespace Tag

/-- The tag of a text. -/
def ofText (s : String) : Tag := ⟨Text.Utf8.encode s⟩

/-- A tag of the standard. -/
def standard (name : String) : Tag := ofText ("tag:yaml.org,2002:" ++ name)

/-- The exclamation mark as a byte. -/
def mark : UInt8 := 0x21

/-- The tag that is an exclamation mark alone. -/
def bare : Tag := ⟨[mark]⟩

/-- Whether a tag begins as those of one's own do. -/
def isOwn (t : Tag) : Bool := t.bytes.head? == some mark

/-- The name of a tag of one's own: what follows the exclamation mark, or the mark if
nothing does. -/
def own? (t : Tag) : Option String :=
  match t.bytes with
  | [] => none
  | b :: rest =>
      if b != mark then none
      else if rest.isEmpty then some "!"
      else Text.Utf8.decode? rest

/-! ## Characters and bytes -/

/-- Whether a character may stand in a name. -/
def isNameChar (c : Char) : Bool := c.isAlphanum || c == '-' || c == '_'

/-- Whether a character may stand in a tag.  In a whole tag commas and brackets may. -/
def isTagChar (whole : Bool) (c : Char) : Bool :=
  isNameChar c || ";/?:@&=+$.%!~*\x27()".toList.contains c ||
    (whole && (c == ',' || c == '[' || c == ']'))

/-- The bytes that must follow a byte that begins a character. -/
def following? (n : Nat) : Option Nat :=
  if n < 0x80 then some 0
  else if 0xc0 ≤ n && n < 0xe0 then some 1
  else if 0xe0 ≤ n && n < 0xf0 then some 2
  else if 0xf0 ≤ n && n < 0xf8 then some 3
  else none

/-- The bytes that must still follow when `pending` had to and one has come. -/
def after? (pending n : Nat) : Option Nat :=
  match pending with
  | 0 => following? n
  | pending + 1 => if 0x80 ≤ n && n < 0xc0 then some pending else none

/-- The bytes of the characters of a tag.  `pending` of them must be escaped. -/
def unescape? (pending : Nat) : List Char → Option (List UInt8)
  | [] => if pending == 0 then some [] else none
  | '%' :: c :: d :: cs => do
      let high ← Numeric.hexValue? c
      let low ← Numeric.hexValue? d
      let n := high * 16 + low
      let bytes ← unescape? (← after? pending n) cs
      pure (n.toUInt8 :: bytes)
  | c :: cs =>
      if c == '%' || pending != 0 then none
      else (unescape? 0 cs).map (c.toNat.toUInt8 :: ·)

/-- The bytes of the part of a tag at the front, and the characters it takes. -/
def part? (whole : Bool) (cs : List Char) : Option (List UInt8 × Nat) :=
  let taken := cs.takeWhile (isTagChar whole)
  (unescape? 0 taken).map fun bytes => (bytes.takeWhile (· != 0), taken.length)

/-! ## The three ways -/

/-- A tag as it is written: a short form, empty where there is none, and what follows
it. -/
structure Written where
  handle : String
  rest : List UInt8
deriving DecidableEq, Repr, Inhabited

/-- The short form of `!name!` or of `!` at the front, and the characters after it. -/
def handle (cs : List Char) : String × List Char :=
  let name := (cs.drop 1).takeWhile isNameChar
  match cs.drop (name.length + 1) with
  | '!' :: rest => (String.ofList ('!' :: name ++ ['!']), rest)
  | _ => ("!", cs.drop 1)

/-- The tag that begins with the exclamation mark at the front, and the characters it
takes. -/
def written? (cs : List Char) : Option (Written × Nat) :=
  match cs with
  | '!' :: '<' :: rest =>
      match part? true rest with
      | some (bytes, n) =>
          if n == 0 || (rest.drop n).head? != some '>' then none else some (⟨"", bytes⟩, n + 3)
      | none => none
  | _ =>
      let (short, rest) := handle cs
      match part? false rest with
      | none => none
      | some (bytes, n) =>
          if short == "!" then some (if bytes.isEmpty then ⟨"", [mark]⟩ else ⟨short, bytes⟩, n + 1)
          else if n == 0 then none
          else some (⟨short, bytes⟩, short.length + n)

/-- The short forms that every document knows. -/
def usualShorts : List (String × List UInt8) := [("!", [mark]), ("!!", (standard "").bytes)]

/-- The whole tag, with the short forms that a document declares. -/
def Written.whole? (shorts : List (String × List UInt8)) (w : Written) : Option Tag :=
  if w.handle.isEmpty then some ⟨w.rest⟩
  else ((shorts ++ usualShorts).find? (·.1 == w.handle)).map fun (_, full) => ⟨full ++ w.rest⟩

example : (written? "!!%69nt 5".toList).bind (fun (w, _) => w.whole? []) = some (standard "int") := by
  decide +kernel
example : written? "! x".toList = some (⟨"", [mark]⟩, 1) := by decide +kernel
example : written? "!a%zz x".toList = none := by decide +kernel

end Tag

end FleetGate.Yaml
