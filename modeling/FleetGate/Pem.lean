import FleetGate.Text.Base64
import FleetGate.Text.Blank
import FleetGate.Url.Host

/-!
# Blocks of armoured text

Certificates and keys are kept in text files as blocks between two marks.  A block
has a tag, which stands in both marks, perhaps some headers followed by an empty
line, and then its bytes in base 64.  What stands between blocks is ignored.

A mark is searched from left to right without stepping back, so one dash too many
hides it.  One malformed block spoils the whole text.
-/

namespace FleetGate

/-- A block. -/
structure Pem where
  /-- What the block holds. -/
  tag : String
  /-- The bytes. -/
  contents : List UInt8
deriving DecidableEq, Repr, Inhabited

namespace Pem

open Text

/-- Looks for a mark.  `wanted` is what is still missing of it, and `seen` is the text
so far in reverse. -/
def search (mark : List Char) : List Char → List Char → List Char → Option (List Char × List Char)
  | [], seen, rest => some ((seen.drop mark.length).reverse, rest)
  | _ :: _, _, [] => none
  | w :: wanted, seen, c :: cs => search mark (if c == w then wanted else mark) (c :: seen) cs

/-- The text before a mark and the text after it. -/
def splitAt? (mark : String) (cs : List Char) : Option (List Char × List Char) :=
  search mark.toList mark.toList [] cs

/-- The text without the blanks of ASCII in front. -/
def skipBlanks (cs : List Char) : List Char :=
  cs.dropWhile fun c => c == ' ' || c == '\n' || c == '\r' || c == '\t'

/-- A block as it is found: the tags of both marks and the text between them. -/
structure Found where
  /-- The tag of the first mark. -/
  opening : List Char
  /-- The tag of the last mark. -/
  closing : List Char
  /-- The text between the marks. -/
  body : List Char

/-- The first block and the text after it. -/
def first? (cs : List Char) : Option (Found × List Char) := do
  let (_, cs) ← splitAt? "-----BEGIN " cs
  let (opening, cs) ← splitAt? "-----" cs
  let (body, cs) ← splitAt? "-----END " (skipBlanks cs)
  let (closing, cs) ← splitAt? "-----" cs
  pure (⟨opening, closing, body⟩, skipBlanks cs)

/-- The blocks of a text, at most `limit` of them. -/
def find : Nat → List Char → List Found
  | 0, _ => []
  | limit + 1, cs =>
      match first? cs with
      | none => []
      | some (block, rest) => block :: find limit rest

/-- The headers of a block and its data, which an empty line keeps apart. -/
def splitHeaders (body : List Char) : List Char × List Char :=
  ((splitAt? "\n\n" body).or (splitAt? "\r\n\r\n" body)).getD ([], body)

/-- The lines of a text, without the blanks at their ends. -/
def lines (cs : List Char) : List String :=
  let all := (Url.splitOnChar '\n' cs).map fun line =>
    String.ofList (line.reverse.dropWhile isBlank).reverse
  if all.getLast? == some "" then all.dropLast else all

/-- The block that was found, unless it is malformed. -/
def ofFound? (f : Found) : Option Pem :=
  let (headers, data) := splitHeaders f.body
  if f.opening.isEmpty || f.opening != f.closing ||
      (lines headers).any (fun line => !line.toList.contains ':') then none
  else
    (Base64.decode? (String.join (lines data)).toList).map fun contents =>
      ⟨String.ofList f.opening, contents⟩

/-- The blocks of a text, unless one is malformed. -/
def blocks? (text : String) : Option (List Pem) :=
  (find text.length text.toList).mapM ofFound?

/-- The tag of a certificate. -/
def certificateTag : String := "CERTIFICATE"

/-- The tags of private keys. -/
def keyTags : List String := ["PRIVATE KEY", "RSA PRIVATE KEY", "EC PRIVATE KEY"]

end Pem

end FleetGate
