import FleetGate.Numeric.Binary

/-!
# Decimal text to numbers

A decimal text is a sign, digits, an optional fraction and an optional power of
ten.  `Decimal.scan` takes it apart, and the readers below are parts of it with
their own rules on what may be left out.  `Decimal.toBinary` gives the nearest
floating-point number, whatever the length of the text: a power of ten far
outside the format is settled by its size and never computed.
-/

namespace FleetGate.Numeric

/-- The value of an ASCII digit. -/
def digitValue (c : Char) : Nat := c.toNat - '0'.toNat

/-- The natural that ASCII digits write, in base ten. -/
def digitsValue (ds : List Char) : Nat := ds.foldl (fun n c => n * 10 + digitValue c) 0

/-- The value of a hexadecimal digit. -/
def hexValue? (c : Char) : Option Nat :=
  if c.isDigit then some (c.toNat - '0'.toNat)
  else if 'a' ≤ c && c ≤ 'f' then some (c.toNat - 'a'.toNat + 10)
  else if 'A' ≤ c && c ≤ 'F' then some (c.toNat - 'A'.toNat + 10)
  else none

/-- Plus or minus `digits` times ten to `power`. -/
structure Decimal where
  /-- Whether the number is below zero, or is a zero with a sign. -/
  negative : Bool
  /-- The digits, as a natural. -/
  digits : Nat
  /-- The power of ten they are scaled by. -/
  power : Int
deriving DecidableEq, Repr, Inhabited

namespace Decimal

/-- The number of decimal digits of a natural, none for zero. -/
def width (n : Nat) : Nat := if n == 0 then 0 else (Nat.toDigits 10 n).length

/-- The nearest number of a format.  Above a thousand places before the point
every number of the formats here is infinite, and below a thousand after it
every number is zero. -/
def toBinary (f : Format) (d : Decimal) : Binary :=
  let places := (width d.digits : Int) + d.power
  if d.digits == 0 || places < -1000 then .finite d.negative 0 f.least
  else if 1000 < places then .infinite d.negative
  else if d.power < 0 then f.ofRatio d.negative d.digits (Nat.pow 10 (-d.power).toNat)
  else f.ofRatio d.negative (d.digits * Nat.pow 10 d.power.toNat) 1

/-- The parts of a decimal text, as they were written. -/
structure Parts where
  /-- The sign, if one was written. -/
  sign : Option Char
  /-- The digits before the point. -/
  whole : List Char
  /-- The digits after the point, if there is a point. -/
  fraction : Option (List Char)
  /-- The sign and the digits of the power of ten, if there is one. -/
  power : Option (Option Char × List Char)

/-- A sign at the front, if there is one. -/
def takeSign : List Char → Option Char × List Char
  | '+' :: cs => (some '+', cs)
  | '-' :: cs => (some '-', cs)
  | cs => (none, cs)

/-- Takes a text apart.  `none` if something is left over that has no place. -/
def scan (cs : List Char) : Option Parts :=
  let (sign, cs) := takeSign cs
  let whole := cs.takeWhile Char.isDigit
  let cs := cs.dropWhile Char.isDigit
  let (fraction, cs) := match cs with
    | '.' :: cs => (some (cs.takeWhile Char.isDigit), cs.dropWhile Char.isDigit)
    | cs => (none, cs)
  match cs with
  | [] => some ⟨sign, whole, fraction, none⟩
  | c :: cs =>
      if c == 'e' || c == 'E' then
        let (powerSign, cs) := takeSign cs
        if cs.all Char.isDigit then some ⟨sign, whole, fraction, some (powerSign, cs)⟩ else none
      else none

/-- The number that the parts write. -/
def Parts.value (p : Parts) : Decimal :=
  let fraction := p.fraction.getD []
  let power : Int := match p.power with
    | some (sign, ds) => if sign == some '-' then -(digitsValue ds) else digitsValue ds
    | none => 0
  ⟨p.sign == some '-', digitsValue (p.whole ++ fraction), power - fraction.length⟩

end Decimal

/-- An integer: an optional sign and at least one ASCII digit. -/
def readInt? (s : String) : Option Int :=
  let (sign, ds) := Decimal.takeSign s.toList
  if ds.isEmpty || !ds.all Char.isDigit then none
  else some (if sign == some '-' then -(digitsValue ds : Int) else digitsValue ds)

/-- A natural: an optional plus sign and at least one ASCII digit. -/
def readNat? (s : String) : Option Nat :=
  match Decimal.takeSign s.toList with
  | (some '-', _) => none
  | (_, ds) => if ds.isEmpty || !ds.all Char.isDigit then none else some (digitsValue ds)

/-- A floating-point number: an infinity or not a number by name, in any case,
or a decimal text with a digit before or after its point and one in its power. -/
def readBinary? (f : Format) (s : String) : Option Binary :=
  let (sign, cs) := Decimal.takeSign s.toList
  let negative := sign == some '-'
  let name := String.ofList (cs.map Char.toLower)
  if name == "inf" || name == "infinity" then some (.infinite negative)
  else if name == "nan" then some (.nan negative)
  else match Decimal.scan s.toList with
    | none => none
    | some p =>
        if p.whole.isEmpty && (p.fraction.getD []).isEmpty then none
        else if p.power.any (·.2.isEmpty) then none
        else some (p.value.toBinary f)

example : readInt? "-0042" = some (-42) ∧ readInt? "+" = none ∧ readNat? "+7" = some 7 := by decide
example : (readBinary? binary32 ".5").map binary32.toBits = some 0x3f000000 := by decide

end FleetGate.Numeric
