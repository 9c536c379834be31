import FleetGate.Calendar
import FleetGate.Numeric.Decimal
import FleetGate.Text.Reader
import FleetGate.Toml.Value

/-!
# Scalars of TOML

Keys, texts, numbers, dates and times, as version 1.0 of the format writes them.

* Numbers: an underscore may stand between two digits.  Whole numbers must fit
  64 bits with a sign.  A decimal fraction that rounds to the positive infinity
  is refused.
* Dates: the day must exist in its month.  The normal text of a date has the
  letter `T` before the time, at most nine digits of a fraction with no zeros at
  its end, and `Z` or an offset of hours and minutes.
* Texts: a line end in a text of several lines is one line feed.
-/

namespace FleetGate.Toml

open Text Text.Reader Numeric

/-! ## Characters -/

/-- Whether a character is a space or a tab. -/
def isSpace (c : Char) : Bool := c == ' ' || c == '\t'

/-- Whether a character may stand in a comment or a text as it is. -/
def isPlain (c : Char) : Bool := c == '\t' || (0x20 ≤ c.toNat && c != '\x7f')

/-- Spaces and tabs. -/
def spaces : Reader Unit := do let _ ← takeWhile isSpace

/-- The end of a line. -/
def lineEnd : Reader Unit := char '\n' <|> text "\r\n"

/-- A comment, up to the end of its line. -/
def comment : Reader Unit := do
  char '#'
  let _ ← takeWhile isPlain

/-- Whether a character is a hexadecimal digit. -/
def isHex (c : Char) : Bool := (hexValue? c).isSome

/-- The natural that digits write in a base. -/
def inBase (base : Nat) (ds : List Char) : Nat :=
  ds.foldl (fun n c => n * base + (hexValue? c).getD 0) 0

/-! ## Texts -/

/-- The character of a code point in hexadecimal digits. -/
def codePoint (digits : Nat) : Reader Char := do
  let n := inBase 16 (← count digits isHex)
  if n < 0xd800 || (0xdfff < n && n < 0x110000) then pure (Char.ofNat n) else failure

/-- What follows a backslash. -/
def escape : Reader Char := do
  match ← satisfy fun _ => true with
  | 'b' => pure '\x08'
  | 't' => pure '\t'
  | 'n' => pure '\n'
  | 'f' => pure '\x0c'
  | 'r' => pure '\r'
  | '"' => pure '"'
  | '\\' => pure '\\'
  | 'u' => codePoint 4
  | 'U' => codePoint 8
  | _ => failure

/-- The rest of a text of one line with escapes. -/
def basicRest : Nat → List Char → Reader String
  | 0, _ => failure
  | fuel + 1, read => do
      let c ← satisfy isPlain
      if c == '"' then pure (String.ofList read.reverse)
      else if c == '\\' then basicRest fuel ((← escape) :: read)
      else basicRest fuel (c :: read)

/-- A line end that a backslash takes away, with all blanks after it. -/
def continuedLine : Reader Unit := do
  spaces
  lineEnd
  let _ ← takeWhile fun c => isSpace c || c == '\n' || c == '\r'

/-- Whether carriage returns stand before line feeds only. -/
def returnsPaired : List Char → Bool
  | [] => true
  | '\r' :: '\n' :: cs => returnsPaired cs
  | '\r' :: _ => false
  | _ :: cs => returnsPaired cs

/-- A backslash, spaces, a line end and the blanks of the lines after it. -/
def lineJoin : Reader Unit := fun cs =>
  match continuedLine cs with
  | some ((), rest) =>
      if returnsPaired (cs.take (cs.length - rest.length)) then some ((), rest) else none
  | none => none

/-- The rest of a text of several lines.  `quote` is the quotation mark, and marks
before the last three belong to the text, two at most. -/
def linesRest (quote : Char) (escapes : Bool) : Nat → List Char → Reader String
  | 0, _ => failure
  | fuel + 1, read => do
      let quotes ← takeWhile (· == quote)
      if 3 ≤ quotes.length then
        if quotes.length ≤ 5 then
          pure (String.ofList (List.replicate (quotes.length - 3) quote ++ read).reverse)
        else failure
      else
        let read := quotes ++ read
        match ← maybe lineEnd with
        | some () => linesRest quote escapes fuel ('\n' :: read)
        | none =>
            let c ← satisfy isPlain
            if escapes && c == '\\' then
              match ← maybe lineJoin with
              | some () => linesRest quote escapes fuel read
              | none => linesRest quote escapes fuel ((← escape) :: read)
            else linesRest quote escapes fuel (c :: read)

/-- A text of one line in double quotes. -/
def basicText : Reader String := fun cs => (do char '"'; basicRest cs.length []) cs

/-- A text of one line in single quotes. -/
def literalText : Reader String := do
  char '\x27'
  let s ← takeWhile fun c => isPlain c && c != '\x27'
  char '\x27'
  pure (String.ofList s)

/-- A text of several lines.  A line end right after the opening is dropped. -/
def linesText (quote : Char) (escapes : Bool) : Reader String := fun cs =>
  (do let _ ← maybe lineEnd; linesRest quote escapes (cs.length + 1) []) cs

/-- A text of any of the four forms. -/
def anyText : Reader String := do
  match ← maybe (text "\"\"\"") with
  | some () => linesText '"' true
  | none =>
      match ← maybe (text "\x27\x27\x27") with
      | some () => linesText '\x27' false
      | none => basicText <|> literalText

/-- Whether a character may stand in a key without quotes. -/
def isBare (c : Char) : Bool := c.isAlphanum || c == '_' || c == '-'

/-- One part of a key. -/
def keyPart : Reader String :=
  basicText <|> literalText <|> do
    let cs ← takeSome isBare
    pure (String.ofList cs)

/-- A key: parts between dots, with spaces around each.  It must have fewer than
eighty parts. -/
def keyParts : Nat → Reader (List String)
  | 0 => failure
  | fuel + 1 => do
      spaces
      let part ← keyPart
      spaces
      if ← tryChar '.' then
        let parts ← keyParts fuel
        pure (part :: parts)
      else pure [part]

/-- A key. -/
def key : Reader (List String) := keyParts 79

/-! ## Numbers -/

/-- Whether a character is a digit of a base. -/
def isDigitOf (base : Nat) (c : Char) : Bool := (hexValue? c).any (· < base)

/-- Digits of which two may have an underscore between them. -/
def groups (base : Nat) : Nat → Reader (List Char)
  | 0 => failure
  | fuel + 1 => do
      let ds ← takeSome (isDigitOf base)
      if ← tryChar '_' then
        let rest ← groups base fuel
        pure (ds ++ rest)
      else pure ds

/-- Digits with underscores, however many. -/
def digits (base : Nat) : Reader (List Char) := fun cs => groups base (cs.length + 1) cs

/-- An optional sign. -/
def sign : Reader (Option Char) := fun cs => some (Decimal.takeSign cs)

/-- A whole number that must fit 64 bits with a sign. -/
def fitting (n : Int) : Reader Toml :=
  if -(1 <<< 63 : Nat) ≤ n && n < (1 <<< 63 : Nat) then pure (.int n) else failure

/-- The digits before a point: a zero alone, or digits that begin with none. -/
def wholeDigits : Reader (List Char) := do
  if ← tryChar '0' then pure ['0'] else digits 10

/-- A whole number. -/
def integer : Reader Toml :=
  (do text "0x"; fitting (inBase 16 (← digits 16))) <|>
  (do text "0o"; fitting (inBase 8 (← digits 8))) <|>
  (do text "0b"; fitting (inBase 2 (← digits 2))) <|> do
    let s ← sign
    let n : Int := digitsValue (← wholeDigits)
    fitting (if s == some '-' then -n else n)

/-- A power of ten. -/
def power : Reader (Option Char × List Char) := do
  let _ ← satisfy fun c => c == 'e' || c == 'E'
  let s ← sign
  pure (s, ← digits 10)

/-- A decimal fraction, or an infinity or not a number by name. -/
def fraction : Reader Binary := do
  let s ← sign
  let negative := s == some '-'
  match ← maybe (text "inf") with
  | some () => pure (.infinite negative)
  | none =>
      match ← maybe (text "nan") with
      | some () => pure (.nan negative)
      | none =>
          let whole ← wholeDigits
          let places ← if ← tryChar '.' then (do pure (some (← digits 10))) else pure none
          let p ← maybe power
          if places.isNone && p.isNone then failure
          else
            let x := (Decimal.Parts.value ⟨s, whole, places, p⟩).toBinary binary64
            if x == .infinite false then failure else pure x

/-! ## Dates and times -/

/-- A number of exactly so many digits within bounds, and its digits. -/
def field (width low high : Nat) : Reader (List Char) := do
  let ds ← count width Char.isDigit
  let n := digitsValue ds
  if low ≤ n && n ≤ high then pure ds else failure

/-- A date. -/
def date : Reader (List Char) := do
  let y ← field 4 0 9999
  char '-'
  let m ← field 2 1 12
  char '-'
  let d ← field 2 1 31
  if Calendar.isDate (digitsValue y) (digitsValue m) (digitsValue d) then
    pure (y ++ ['-'] ++ m ++ ['-'] ++ d)
  else failure

/-- The digits of a fraction of a second as they are written: nine at most, and no
zeros at the end. -/
def secondPlaces (ds : List Char) : List Char :=
  match ((ds.take 9).reverse.dropWhile (· == '0')).reverse with
  | [] => []
  | kept => '.' :: kept

/-- A time of day. -/
def time : Reader (List Char) := do
  let h ← field 2 0 23
  char ':'
  let m ← field 2 0 59
  char ':'
  let s ← field 2 0 60
  let places ← if ← tryChar '.' then (do pure (secondPlaces (← takeSome Char.isDigit))) else pure []
  pure (h ++ [':'] ++ m ++ [':'] ++ s ++ places)

/-- An offset from universal time.  One of no length is positive. -/
def offset : Reader (List Char) :=
  (do let _ ← satisfy fun c => c == 'Z' || c == 'z'; pure ['Z']) <|> do
    let s ← satisfy fun c => c == '+' || c == '-'
    let h ← field 2 0 23
    char ':'
    let m ← field 2 0 59
    let s := if digitsValue (h ++ m) == 0 then '+' else s
    pure (s :: h ++ [':'] ++ m)

/-- A time after its delimiter, with an optional offset. -/
def timeAfterDate : Reader (List Char) := do
  let _ ← satisfy fun c => c == 'T' || c == 't' || c == ' '
  let t ← time
  let o ← maybe offset
  pure ('T' :: t ++ o.getD [])

/-- A date, a time or both. -/
def dateOrTime : Reader Toml := do
  match ← maybe date with
  | some d =>
      let t ← maybe timeAfterDate
      pure (.datetime (String.ofList (d ++ t.getD [])))
  | none => pure (.datetime (String.ofList (← time)))

/-- Whether a text begins like a date or a time, which decides that it must be
one. -/
def looksLikeDate (cs : List Char) : Bool :=
  let ds := cs.takeWhile Char.isDigit
  match ds.length, cs.dropWhile Char.isDigit with
  | 4, '-' :: _ => true
  | 2, ':' :: _ => digitsValue ds ≤ 23
  | _, _ => false

/-- A number, a date or a time. -/
def number : Reader Toml := fun cs =>
  if looksLikeDate cs then dateOrTime cs
  else ((do pure (.float (← fraction))) <|> integer) cs

/-- A scalar. -/
def scalar : Reader Toml := do
  match ← peek with
  | some '"' | some '\x27' => pure (.str (← anyText))
  | some 't' => do text "true"; pure (.bool true)
  | some 'f' => do text "false"; pure (.bool false)
  | _ => number

end FleetGate.Toml
