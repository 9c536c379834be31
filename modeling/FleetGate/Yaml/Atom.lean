import FleetGate.Numeric.Decimal
import FleetGate.Yaml.Tag

/-!
# What YAML scalars mean

A scalar that is written plain means what it looks like.

* Nothing, `~` and `null` are null, and `true` and `false` are truth values.  The
  words may also begin with a capital or be all in capitals.
* A whole number is decimal, or hexadecimal, octal or binary after `0x`, `0o` and
  `0b`.  One that 64 bits do not hold is refused unless 128 bits do not either,
  and then it is an ordinary number.  Digits after a leading zero are a text.
* Any other number is a floating-point number if it is finite, or infinite or not a
  number in so many words.
* Everything else is a text.

A scalar between quotes or in a block is a text.  The tags of the standard say what
a scalar is whatever it looks like.  A tag that is marked as one's own but is no text
says nothing, and of a scalar that has such a tag only the form matters.
-/

namespace FleetGate.Yaml

open Numeric

/-- What a scalar means. -/
inductive Atom where
  | null
  | bool (b : Bool)
  | int (n : Int)
  | float (x : Binary)
  | str (s : String)
deriving DecidableEq, Repr, Inhabited

namespace Atom

/-! ## Words -/

/-- A word in small letters, with a capital, or in capitals. -/
def spellings (word : String) : List String :=
  [word, String.ofList (match word.toList with | [] => [] | c :: cs => c.toUpper :: cs),
    String.ofList (word.toList.map Char.toUpper)]

/-- Whether a text means null. -/
def isNull (s : String) : Bool := s == "~" || (spellings "null").contains s

/-- The truth value that a text means. -/
def bool? (s : String) : Option Bool :=
  if (spellings "true").contains s then some true
  else if (spellings "false").contains s then some false
  else none

/-! ## Whole numbers -/

/-- Whether a text is digits after a leading zero, with or without a sign. -/
def isPadded (cs : List Char) : Bool :=
  match (match cs with | '+' :: ds | '-' :: ds => ds | ds => ds) with
  | '0' :: d :: ds => (d :: ds).all Char.isDigit
  | _ => false

/-- The value of digits in a base, at least one. -/
def digits? (base : Nat) (cs : List Char) : Option Nat :=
  if cs.isEmpty then none
  else cs.foldlM (fun n c =>
    match hexValue? c with
    | some d => if d < base then some (n * base + d) else none
    | none => none) 0

/-- The whole number that a text without a sign means. -/
def natural? : List Char → Option Nat
  | '0' :: 'x' :: cs => digits? 16 cs
  | '0' :: 'o' :: cs => digits? 8 cs
  | '0' :: 'b' :: cs => digits? 2 cs
  | cs => digits? 10 cs

/-- The whole number that a text means, of any size. -/
def integer? (s : String) : Option Int :=
  if isPadded s.toList then none
  else match s.toList with
    | '+' :: cs => (natural? cs).map Int.ofNat
    | '-' :: cs => (natural? cs).map fun n => -(n : Int)
    | cs => (natural? cs).map Int.ofNat

/-- Whether 64 bits hold a number, with a sign only if it is negative. -/
def fits64 (n : Int) : Bool := -(1 <<< 63 : Nat) ≤ n && n < (1 <<< 64 : Nat)

/-- Whether 128 bits hold a number. -/
def fits128 (n : Int) : Bool := -(1 <<< 127 : Nat) ≤ n && n < (1 <<< 128 : Nat)

/-! ## Other numbers -/

/-- The numbers that are not finite, in words. -/
def unbounded? (s : String) : Option Binary :=
  if [".inf", ".Inf", ".INF", "+.inf", "+.Inf", "+.INF"].contains s then some (.infinite false)
  else if ["-.inf", "-.Inf", "-.INF"].contains s then some (.infinite true)
  else if [".nan", ".NaN", ".NAN"].contains s then some (.nan false)
  else none

/-- The finite number that a text means. -/
def finite? (s : String) : Option Binary :=
  let cs := s.toList
  let unsigned := match cs with | '+' :: ds => ds | ds => ds
  if cs.head? == some '+' && unsigned.head?.any fun c => c == '+' || c == '-' then none
  else (readBinary? binary64 (String.ofList unsigned)).filter Binary.isFinite

/-- The number that a text means. -/
def number? (s : String) : Option Binary := (unbounded? s).or (finite? s)

/-! ## Scalars -/

/-- What a text means by its looks, if it is no whole number that 64 bits hold. -/
def loose (s : String) : Atom :=
  if isPadded s.toList then .str s else ((number? s).map .float).getD (.str s)

/-- What a scalar means that is written plain.  `none` for a whole number that is too
large. -/
def ofPlain? (s : String) : Option Atom :=
  if s.isEmpty || isNull s then some .null
  else match bool? s, integer? s with
    | some b, _ => some (.bool b)
    | none, some n =>
        if fits64 n then some (.int n) else if fits128 n then none else some (loose s)
    | none, none => some (loose s)

/-- What a scalar means that has no tag. -/
def ofForm? (s : String) (plain : Bool) : Option Atom :=
  if plain then ofPlain? s else some (.str s)

/-- What a scalar with a tag means. -/
def ofTagged? (s : String) (plain : Bool) (tag : Tag) : Option Atom :=
  if tag == .standard "bool" then (bool? s).map .bool
  else if tag == .standard "int" then ((integer? s).filter fits64).map .int
  else if tag == .standard "float" then (number? s).map .float
  else if tag == .standard "null" then if isNull s then some .null else none
  else if tag.isOwn then ofForm? s plain
  else some (.str s)

/-- What a scalar means. -/
def ofScalar? (s : String) (plain : Bool) (tag? : Option Tag) : Option Atom :=
  match tag? with
  | none => ofForm? s plain
  | some tag => ofTagged? s plain tag

example : ofPlain? "0o17" = some (.int 15) ∧ ofPlain? "007" = some (.str "007") ∧
    ofPlain? "99999999999999999999" = none := by decide +kernel
example : ofTagged? "5" false (.standard "int") = some (.int 5) ∧
    ofTagged? "x" true (.standard "int") = none := by decide +kernel

end Atom

end FleetGate.Yaml
