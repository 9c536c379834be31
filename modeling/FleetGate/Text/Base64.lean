/-!
# Base 64

Bytes are written as letters, digits and two signs, six bits each.  Three bytes
make four characters, and what is left at the end is padded with `=`.

Reading is strict: the padding must be there, the bits that it stands for must be
zero, and there are no blanks.
-/

namespace FleetGate.Text.Base64

/-- The digits, in order. -/
def alphabet : List Char :=
  "ABCDEFGHIJKLMNOPQRSTUVWXYZabcdefghijklmnopqrstuvwxyz0123456789+/".toList

/-- The digit of six bits. -/
def digit (n : Nat) : Char := alphabet.getD n '='

/-- The six bits of a digit. -/
def value? (c : Char) : Option Nat := alphabet.idxOf? c

/-- Writes bytes. -/
def encode : List UInt8 → List Char
  | [] => []
  | [a] =>
      let n := a.toNat * 16
      [digit (n / 64), digit (n % 64), '=', '=']
  | [a, b] =>
      let n := (a.toNat * 256 + b.toNat) * 4
      [digit (n / 4096), digit (n / 64 % 64), digit (n % 64), '=']
  | a :: b :: c :: rest =>
      let n := (a.toNat * 256 + b.toNat) * 256 + c.toNat
      digit (n / 262144) :: digit (n / 4096 % 64) :: digit (n / 64 % 64) :: digit (n % 64) ::
        encode rest

/-- The bytes of four digits. -/
def quad? (a b c d : Char) : Option (List UInt8) := do
  let n := ((← value? a) * 64 + (← value? b)) * 4096 + (← value? c) * 64 + (← value? d)
  pure [UInt8.ofNat (n / 65536), UInt8.ofNat (n / 256), UInt8.ofNat n]

/-- The bytes of the last four characters, which may be padded. -/
def last? (a b c d : Char) : Option (List UInt8) :=
  if d != '=' then quad? a b c d
  else if c != '=' then do
    let n := ((← value? a) * 64 + (← value? b)) * 64 + (← value? c)
    if n % 4 == 0 then pure [UInt8.ofNat (n / 1024), UInt8.ofNat (n / 4)] else none
  else do
    let n := (← value? a) * 64 + (← value? b)
    if n % 16 == 0 then pure [UInt8.ofNat (n / 16)] else none

/-- Reads bytes. -/
def decode? : List Char → Option (List UInt8)
  | [] => some []
  | [a, b, c, d] => last? a b c d
  | a :: b :: c :: d :: rest => do
      let bytes ← quad? a b c d
      pure (bytes ++ (← decode? rest))
  | _ => none

example : encode [0x6c, 0x69, 0x67, 0x77] = "bGlndw==".toList := by decide +kernel
example : decode? "bGlndw==".toList = some [0x6c, 0x69, 0x67, 0x77] := by decide +kernel
example : decode? "bGlndx==".toList = none := by decide +kernel

end FleetGate.Text.Base64
