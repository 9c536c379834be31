import FleetGate.Numeric.Rounding

/-!
# Binary floating point

Rates, multipliers and the numbers of documents are binary floating-point
numbers of 64 or 32 bits.  Here such a number is not machine words but a sign,
a significand and an exponent, so what an operation does is arithmetic of
naturals: the exact result is a quotient, and `Format.ofRatio` rounds it to the
nearest number of the format, ties to the even significand.

A finite number is kept in its canonical form.  Either the significand has as
many binary digits as the format holds, or the exponent is the least one.  So
two finite numbers are the same bits exactly when they are equal as values of
the type.
-/

namespace FleetGate.Numeric

/-- A floating-point number.  The value of a finite one is its significand
times two to its exponent. -/
inductive Binary where
  /-- Not a number. -/
  | nan (negative : Bool)
  /-- An infinity and its sign. -/
  | infinite (negative : Bool)
  /-- A finite number. -/
  | finite (negative : Bool) (significand : Nat) (exponent : Int)
deriving DecidableEq, Repr, Inhabited

/-- A binary interchange format. -/
structure Format where
  /-- Binary digits of a full significand. -/
  precision : Nat
  /-- The least exponent, that of the numbers next to zero. -/
  least : Int
  /-- The greatest exponent of a full significand. -/
  greatest : Int
  /-- Binary digits of the exponent field. -/
  exponentBits : Nat

/-- The format of 64 bits. -/
def binary64 : Format := ⟨53, -1074, 971, 11⟩

/-- The format of 32 bits. -/
def binary32 : Format := ⟨24, -149, 104, 8⟩

namespace Format

/-- Scales a quotient by a power of two: `num / den * 2 ^ (-e)`. -/
def scale (num den : Nat) (e : Int) : Nat × Nat :=
  if e < 0 then (num <<< (-e).toNat, den) else (num, den <<< e.toNat)

/-- The exponent at which the whole part of a positive quotient has as many
binary digits as the format holds, or the least exponent of the format. -/
def exponentOf (f : Format) (num den : Nat) : Int :=
  let guess := (num.log2 : Int) - (den.log2 : Int) - (f.precision : Int)
  let (n, d) := scale num den (guess + 1)
  let e := if n / d < 1 <<< (f.precision - 1) then guess else guess + 1
  max e f.least

/-- The number nearest to plus or minus `num / den`, an infinity if the
quotient rounds above every finite number. -/
def ofRatio (f : Format) (negative : Bool) (num den : Nat) : Binary :=
  if num == 0 || den == 0 then .finite negative 0 f.least
  else
    let e := f.exponentOf num den
    let (n, d) := scale num den e
    let m := roundDiv n d
    let (m, e) := if m == 1 <<< f.precision then (1 <<< (f.precision - 1), e + 1) else (m, e)
    if f.greatest < e then .infinite negative else .finite negative m e

/-- The number nearest to a natural. -/
def ofNat (f : Format) (n : Nat) : Binary := f.ofRatio false n 1

/-- The bits of a number, as a natural. -/
def toBits (f : Format) (x : Binary) : Nat :=
  let top := 1 <<< (f.precision - 1)
  let signed (negative : Bool) (rest : Nat) : Nat :=
    if negative then (top <<< f.exponentBits) + rest else rest
  match x with
  | .nan negative => signed negative (top * ((1 <<< f.exponentBits) - 1) + top / 2)
  | .infinite negative => signed negative (top * ((1 <<< f.exponentBits) - 1))
  | .finite negative m e =>
      if m < top then signed negative m
      else signed negative (top * ((e - f.least).toNat + 1) + (m - top))

end Format

namespace Binary

/-- Whether the number is neither an infinity nor not a number. -/
def isFinite : Binary → Bool
  | .finite .. => true
  | _ => false

/-- The sign as it is written. -/
def isNegative : Binary → Bool
  | .nan negative | .infinite negative | .finite negative .. => negative

/-- The size of a finite number as an exact quotient of naturals. -/
def ratio (significand : Nat) (exponent : Int) : Nat × Nat :=
  if exponent < 0 then (significand, 1 <<< (-exponent).toNat)
  else (significand <<< exponent.toNat, 1)

/-- The number with the other sign. -/
def neg : Binary → Binary
  | .nan negative => .nan !negative
  | .infinite negative => .infinite !negative
  | .finite negative m e => .finite (!negative) m e

/-- The product, rounded to the format. -/
def mul (f : Format) : Binary → Binary → Binary
  | .nan _, _ | _, .nan _ => .nan false
  | .infinite a, .infinite b => .infinite (a != b)
  | .infinite a, .finite b m _ | .finite b m _, .infinite a =>
      if m == 0 then .nan false else .infinite (a != b)
  | .finite a m e, .finite b n e' =>
      let (p, q) := ratio (m * n) (e + e')
      f.ofRatio (a != b) p q

/-- The quotient, rounded to the format. -/
def div (f : Format) : Binary → Binary → Binary
  | .nan _, _ | _, .nan _ => .nan false
  | .infinite _, .infinite _ => .nan false
  | .infinite a, .finite b _ _ => .infinite (a != b)
  | .finite a _ _, .infinite b => .finite (a != b) 0 f.least
  | .finite a m e, .finite b n e' =>
      if n == 0 then (if m == 0 then .nan false else .infinite (a != b))
      else
        let (p, q) := ratio m (e - e')
        f.ofRatio (a != b) p (q * n)

/-- The sum of two numbers without sign, rounded to the format.  The signs are
not looked at. -/
def addSizes (f : Format) : Binary → Binary → Binary
  | .nan _, _ | _, .nan _ => .nan false
  | .infinite _, _ | _, .infinite _ => .infinite false
  | .finite _ m e, .finite _ n e' =>
      let (p, q) := ratio m e
      let (p', q') := ratio n e'
      f.ofRatio false (p * q' + p' * q) (q * q')

/-- Whether one number is less than another, which a number that is none never
is. -/
def lt : Binary → Binary → Bool
  | .nan _, _ | _, .nan _ => false
  | .infinite a, .infinite b => a && !b
  | .infinite a, .finite .. => a
  | .finite .., .infinite b => !b
  | .finite a m e, .finite b n e' =>
      let (p, q) := ratio m e
      let (p', q') := ratio n e'
      let left := p * q'
      let right := p' * q
      match a, b with
      | false, false => left < right
      | true, true => right < left
      | true, false => left != 0 || right != 0
      | false, true => false

/-- The lesser of two numbers.  A number that is none gives way to the other. -/
def min (x y : Binary) : Binary :=
  match x with
  | .nan _ => y
  | _ => if y.lt x then y else x

/-- A number of one format as the nearest of another. -/
def convert (f : Format) : Binary → Binary
  | .nan negative => .nan negative
  | .infinite negative => .infinite negative
  | .finite negative m e =>
      let (p, q) := ratio m e
      f.ofRatio negative p q

end Binary

example : binary64.toBits (binary64.ofRatio false 1 10) = 0x3fb999999999999a := by decide
example : binary64.toBits (binary64.ofRatio true 0 1) = 0x8000000000000000 := by decide
example : binary32.toBits (binary32.ofRatio false 50 1) = 0x42480000 := by decide
example : binary64.toBits (binary64.ofRatio false 1 (2 ^ 1074)) = 1 := by decide +kernel

end FleetGate.Numeric
