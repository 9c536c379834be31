import FleetGate.Numeric.Decimal
import FleetGate.Text.Utf8

/-!
# Percent-encoding

A byte that may not stand in a part of a URL is written as a percent sign and
two hexadecimal digits in capitals.  Bytes beyond ASCII never stand as they are.
A percent sign that two hexadecimal digits do not follow is an ordinary
character.
-/

namespace FleetGate.Url

open Text

/-- A hexadecimal digit in capitals. -/
def hexDigit (n : Nat) : Char := Char.ofNat (if n < 10 then 0x30 + n else 0x41 + (n - 10))

/-- The value of a byte that is a hexadecimal digit. -/
def hexByte? (b : UInt8) : Option Nat := Numeric.hexValue? (Char.ofNat b.toNat)

/-- A byte after a percent sign. -/
def percentByte (b : UInt8) : List Char := ['%', hexDigit (b.toNat / 16), hexDigit (b.toNat % 16)]

/-- The bytes that stand for themselves unless `reserved` says otherwise. -/
def percentEncode (reserved : Char → Bool) (cs : List Char) : List Char :=
  cs.flatMap fun c =>
    if c.toNat < 0x20 || 0x7f ≤ c.toNat || reserved c then
      (String.utf8EncodeChar c).flatMap percentByte
    else [c]

/-- The bytes that a text with percent signs stands for. -/
def percentDecode : List UInt8 → List UInt8
  | [] => []
  | b :: bs =>
      if b == 0x25 then
        match bs with
        | h :: l :: rest =>
            match hexByte? h, hexByte? l with
            | some h, some l => UInt8.ofNat (h * 16 + l) :: percentDecode rest
            | _, _ => b :: percentDecode (h :: l :: rest)
        | bs => b :: percentDecode bs
      else b :: percentDecode bs

/-- Whether a fragment escapes an ASCII character. -/
def inFragment (c : Char) : Bool := " \"<>\x60".toList.contains c

/-- Whether a query escapes an ASCII character. -/
def inQuery (special : Bool) (c : Char) : Bool :=
  " \"#<>".toList.contains c || (special && c == '\x27')

/-- Whether a path escapes an ASCII character. -/
def inPath (c : Char) : Bool := inFragment c || "#?\x7b\x7d".toList.contains c

/-- Whether a user name or a password escapes an ASCII character. -/
def inUserInfo (c : Char) : Bool := inPath c || "/:;=@[\\]^|".toList.contains c

end FleetGate.Url
