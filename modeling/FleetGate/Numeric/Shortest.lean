import FleetGate.Numeric.Decimal

/-!
# The shortest decimal that reads back

A finite floating-point number is written with as few digits as identify it:
of the decimals that round to it, one with the fewest digits, and of those the
nearest.  `Binary.shortest` finds it by trying one digit, two digits and so on.
The grid of decimals with a given number of digits has two points next to the
number, and if any point of the grid rounds to the number, one of these two
does.

The digits are laid out in one of two ways.  `plainText` never uses a power of
ten.  `compactText` uses one outside a range of sizes.
-/

namespace FleetGate.Numeric

/-- The power of ten of the first digit of a positive quotient: the greatest
`k` with `10 ^ k ≤ num / den`. -/
def leadingPower (num den : Nat) : Int :=
  let k := (Decimal.width num : Int) - (Decimal.width den : Int)
  let fits := if k < 0 then den ≤ num * Nat.pow 10 (-k).toNat else den * Nat.pow 10 k.toNat ≤ num
  if fits then k else k - 1

/-- The quotient `num / den` in units of ten to `power`. -/
def inUnits (num den : Nat) (power : Int) : Nat × Nat :=
  if power < 0 then (num * Nat.pow 10 (-power).toNat, den) else (num, den * Nat.pow 10 power.toNat)

/-- The decimals next to a number in a grid, and whether each reads back. -/
def gridPoint? (f : Format) (x : Binary) (num den : Nat) (power : Int) : Option Nat :=
  let (n, d) := inUnits num den power
  let low := n / d
  let readsBack (c : Nat) : Bool :=
    c != 0 && Decimal.toBinary f ⟨x.isNegative, c, power⟩ == x
  match readsBack low, readsBack (low + 1) with
  | true, true =>
      let twice := 2 * (n % d)
      some (if twice < d || (twice == d && low % 2 == 0) then low else low + 1)
  | true, false => some low
  | false, true => some (low + 1)
  | false, false => none

/-- The digits and the power of ten of the shortest decimal that reads back, from
grids with more and more digits.  Seventeen digits always suffice. -/
def shortestFrom (f : Format) (x : Binary) (num den : Nat) (top : Int) : Nat → Nat × Int
  | 0 => (num / den, 0)
  | left + 1 =>
      let power := top - ((17 - (left + 1) : Nat) : Int)
      match gridPoint? f x num den power with
      | some c => (c, power)
      | none => shortestFrom f x num den top left

/-- The shortest decimal that reads back as a positive or negative number. -/
def Binary.shortest (f : Format) (significand : Nat) (exponent : Int) : Nat × Int :=
  if significand == 0 then (0, 0)
  else
    let (num, den) := Binary.ratio significand exponent
    shortestFrom f (.finite false significand exponent) num den (leadingPower num den) 17

/-- The digits of a shortest decimal without the zeros at its end, and the number
of places before the point. -/
def Binary.digitsAndPoint (f : Format) (significand : Nat) (exponent : Int) :
    List Char × Int :=
  let (c, power) := Binary.shortest f significand exponent
  let ds := (Nat.toDigits 10 c)
  let kept := (ds.reverse.dropWhile (· == '0')).reverse
  (kept, (ds.length : Int) + power)

/-- Digits with the point after `point` places, zeros filling up on either side,
and at least one digit after the point. -/
def layOut (ds : List Char) (point : Int) : List Char :=
  if point ≤ 0 then
    ['0', '.'] ++ List.replicate (-point).toNat '0' ++ ds
  else
    let whole := ds.take point.toNat
    let rest := ds.drop point.toNat
    whole ++ List.replicate (point.toNat - ds.length) '0' ++ ['.'] ++
      (if rest.isEmpty then ['0'] else rest)

/-- A number written without a power of ten and with a point. -/
def Binary.plainText (f : Format) : Binary → String
  | .nan _ => "NaN"
  | .infinite negative => if negative then "-inf" else "inf"
  | .finite negative m e =>
      let sign := if negative then "-" else ""
      if m == 0 then sign ++ "0.0"
      else
        let (ds, point) := Binary.digitsAndPoint f m e
        sign ++ String.ofList (layOut ds point)

/-- A number written with a power of ten when it has more than sixteen places
before the point, or more than five zeros in front of its first digit.  The power
of ten always has its sign. -/
def Binary.compactText (f : Format) : Binary → String
  | .finite negative m e =>
      let (ds, point) := Binary.digitsAndPoint f m e
      if m == 0 || (-5 < point && point ≤ 16) then Binary.plainText f (.finite negative m e)
      else
        let sign := if negative then "-" else ""
        let body := match ds with
          | d :: [] => [d]
          | d :: rest => d :: '.' :: rest
          | [] => []
        sign ++ String.ofList body ++ (if 0 < point then "e+" else "e") ++ toString (point - 1)
  | x => x.plainText f

example : (binary64.ofRatio false 1 10).compactText binary64 = "0.1" := by decide +kernel
example : (binary64.ofRatio true (10 ^ 16) 1).compactText binary64 = "-1e+16" := by decide +kernel
example : (binary64.ofRatio false 3 2).plainText binary64 = "1.5" := by decide +kernel

end FleetGate.Numeric
