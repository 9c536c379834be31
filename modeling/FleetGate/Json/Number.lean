import FleetGate.Json.Value
import FleetGate.Numeric.Decimal

/-!
# Numbers of JSON

A whole number that fits 64 bits, with or without a sign, is an integer, but `-0` is the
floating-point zero with a sign.  Any other number is its significand, of which only as
many digits count as 64 bits hold, scaled by a power of ten, and every step rounds.  A
number that is too large for a finite one has no value.
-/

namespace FleetGate.Json

open Numeric

/-- The greatest natural of 64 bits. -/
def maxWord : Nat := (1 <<< 64) - 1

/-- The significand of a row of digits: the value of the longest start that fits
64 bits, and the number of digits left out. -/
def significand : Nat → List Char → Nat × Nat
  | n, [] => (n, 0)
  | n, d :: ds =>
      let next := n * 10 + digitValue d
      if next ≤ maxWord then significand next ds else (n, (d :: ds).length)

/-- A natural scaled by a power of ten, step by step: at most 308 places at a
time, each step rounded.  `none` if a step is infinite. -/
def scaleTen (x : Binary) (power : Int) : Nat → Option Binary
  | 0 => some x
  | steps + 1 =>
      let table (k : Nat) : Binary := Decimal.toBinary binary64 ⟨false, 1, k⟩
      if power.natAbs ≤ 308 then
        if 0 ≤ power then
          let y := x.mul binary64 (table power.natAbs)
          if y.isFinite then some y else none
        else some (x.div binary64 (table power.natAbs))
      else if x == .finite false 0 binary64.least then some x
      else if 0 ≤ power then none
      else scaleTen (x.div binary64 (table 308)) (power + 308) steps

/-- A floating-point number from its parts. -/
def floatOf (negative : Bool) (whole fraction : List Char) (power : Int) : Option Binary :=
  let (n, cut) := significand 0 whole
  let (n, left) := significand n fraction
  let power := power + cut - ((fraction.length - left : Nat) : Int)
  let x := binary64.ofNat n
  let limit : Int := (1 <<< 31 : Nat)
  let x? :=
    if n == 0 then some x
    else if limit ≤ power then none
    else if power ≤ -limit then some (.finite false 0 binary64.least)
    else scaleTen x power (power.natAbs / 308 + 2)
  x?.map fun x => if negative then x.neg else x

/-- The value of a number's parts, if it is finite. -/
def numberOf (p : Decimal.Parts) : Option Json :=
  let negative := p.sign == some '-'
  match p.fraction, p.power with
  | none, none =>
      let n := digitsValue p.whole
      if negative && n == 0 then some (.float (.finite true 0 binary64.least))
      else if negative && n ≤ 1 <<< 63 then some (.int (-n))
      else if !negative && n ≤ maxWord then some (.int n)
      else (floatOf negative p.whole [] 0).map .float
  | fraction, power =>
      let power : Int := match power with
        | some (some '-', ds) => -(digitsValue ds)
        | some (_, ds) => digitsValue ds
        | none => 0
      (floatOf negative p.whole (fraction.getD []) power).map .float

end FleetGate.Json
