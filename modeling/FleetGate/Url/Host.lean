import FleetGate.Domain.Name
import FleetGate.Url.Percent

/-!
# Hosts of URLs

A host is a domain name, an address of four or of sixteen bytes, or, in a URL
whose scheme has no rules for hosts, any text without reserved characters.

A domain name is decoded from its percent signs and written in ASCII.  If its last
label is a number, the whole must be an address of four bytes, in any of the old
forms: each part in base ten, eight or sixteen, and the last part standing for all
bytes that are left.
-/

namespace FleetGate.Url

open Text Numeric

/-- Why a text is no URL. -/
inductive Flaw where
  /-- There is no scheme. -/
  | relative
  /-- The host is missing where there must be one. -/
  | emptyHost
  /-- The port is no number or too large. -/
  | badPort
  /-- An address of four bytes is malformed. -/
  | badAddress
  /-- An address of sixteen bytes is malformed. -/
  | badLongAddress
  /-- A domain name has no ASCII form. -/
  | badName
  /-- A host has a character it may not have. -/
  | badHost
deriving DecidableEq, Repr, Inhabited

/-- The wording of a flaw. -/
def Flaw.message : Flaw → String
  | .relative => "relative URL without a base"
  | .emptyHost => "empty host"
  | .badPort => "invalid port number"
  | .badAddress => "invalid IPv4 address"
  | .badLongAddress => "invalid IPv6 address"
  | .badName => "invalid international domain name"
  | .badHost => "invalid domain character"

/-- The parts of a text between separators. -/
def splitOnChar (separator : Char) : List Char → List (List Char)
  | [] => [[]]
  | c :: cs =>
      if c == separator then [] :: splitOnChar separator cs
      else match splitOnChar separator cs with
        | [] => [[c]]
        | part :: parts => (c :: part) :: parts

/-- Whether a character may not stand in a domain name. -/
def isForbidden (c : Char) : Bool :=
  c.toNat ≤ 0x20 || c.toNat == 0x7f || "%#/:<>?@[\\]^|".toList.contains c

/-! ## Addresses of four bytes -/

/-- The value of a part of an address: base sixteen after `0x`, base eight after
another zero, else base ten. -/
def addressPart? (cs : List Char) : Option Nat :=
  let inBase (base : Nat) (ds : List Char) : Option Nat :=
    let value (c : Char) : Option Nat := (hexValue? c).filter (· < base)
    ds.foldlM (fun n c => (value c).map (n * base + ·)) 0
  match cs with
  | [] => none
  | '0' :: 'x' :: ds | '0' :: 'X' :: ds => inBase 16 ds
  | '0' :: d :: ds => inBase 8 (d :: ds)
  | ds => inBase 10 ds

/-- The parts of a dotted name, without an empty one at its end. -/
def dottedParts (cs : List Char) : List (List Char) :=
  let parts := splitOnChar '.' cs
  if parts.length > 1 && parts.getLast? == some [] then parts.dropLast else parts

/-- Whether the last part of a name is a number, so that the name must be an
address. -/
def endsInNumber (cs : List Char) : Bool :=
  match (dottedParts cs).getLast? with
  | some part =>
      !part.isEmpty && (part.all Char.isDigit ||
        (("0x".toList.isPrefixOf part || "0X".toList.isPrefixOf part) &&
          (addressPart? part).isSome))
  | none => false

/-- The address that dotted parts write. -/
def address? (cs : List Char) : Option Nat := do
  let parts := dottedParts cs
  if parts.length > 4 then none
  else
    let numbers ← parts.mapM addressPart?
    let last ← numbers.getLast?
    let front := numbers.dropLast
    if front.any (255 < ·) || 1 <<< (8 * (5 - numbers.length)) ≤ last then none
    else
      let placed := front.zipIdx.map fun (n, i) => n <<< (8 * (3 - i))
      some (placed.foldl (· + ·) last)

/-- An address of four bytes in base ten. -/
def addressText (n : Nat) : List Char :=
  (".".intercalate ([3, 2, 1, 0].map fun i => toString ((n >>> (8 * i)) % 256))).toList

/-! ## Addresses of sixteen bytes -/

/-- A piece of an address: up to four hexadecimal digits. -/
def piece? (cs : List Char) : Option Nat :=
  if cs.isEmpty || 4 < cs.length then none
  else cs.foldlM (fun n c => (hexValue? c).map (n * 16 + ·)) 0

/-- The two pieces of an address of four bytes at the end of a longer one, whose
parts must be in base ten without leading zeros. -/
def embedded? (cs : List Char) : Option (List Nat) := do
  let parts := splitOnChar '.' cs
  let numbers ← parts.mapM fun ds =>
    if ds.isEmpty || !ds.all Char.isDigit || (1 < ds.length && ds.head? == some '0') then none
    else
      let n := Numeric.digitsValue ds
      if n ≤ 255 then some n else none
  match numbers with
  | [a, b, c, d] => some [a * 256 + b, c * 256 + d]
  | _ => none

/-- The pieces of a row of them between colons. -/
def pieces? (cs : List Char) : Option (List Nat) :=
  if cs.isEmpty then some []
  else
    let parts := splitOnChar ':' cs
    match parts.getLast? with
    | some last =>
        if last.contains '.' then do
          let front ← parts.dropLast.mapM piece?
          pure (front ++ (← embedded? last))
        else parts.mapM piece?
    | none => none

/-- The text before and after the first pair of colons. -/
def splitGap : List Char → Option (List Char × List Char)
  | [] => none
  | ':' :: ':' :: cs => some ([], cs)
  | c :: cs => (splitGap cs).map fun (front, back) => (c :: front, back)

/-- The eight pieces of an address.  A pair of colons stands for as many zeros as
are missing, at least one. -/
def longAddress? (cs : List Char) : Option (List Nat) :=
  match splitGap cs with
  | none => (pieces? cs).filter (·.length == 8)
  | some (front, back) => do
      if front.contains '.' then none
      else
        let front ← pieces? front
        let back ← pieces? back
        let given := front.length + back.length
        if given ≤ 7 then some (front ++ List.replicate (8 - given) 0 ++ back) else none

/-- The length of the row of zeros at the front. -/
def zeroRun (pieces : List Nat) : Nat := (pieces.takeWhile (· == 0)).length

/-- Where the first longest row of at least two zeros begins, and its length. -/
def longestZeros (pieces : List Nat) : Option (Nat × Nat) :=
  (List.range pieces.length).foldl (fun best i =>
    let run := zeroRun (pieces.drop i)
    match best with
    | some (_, length) => if length < run then some (i, run) else best
    | none => if 2 ≤ run then some (i, run) else none) none

/-- An address of sixteen bytes, its longest row of zeros left out. -/
def longAddressText (pieces : List Nat) : List Char :=
  let write (ps : List Nat) : List Char :=
    (":".intercalate (ps.map fun p => String.ofList (Nat.toDigits 16 p))).toList
  match longestZeros pieces with
  | some (i, run) => write (pieces.take i) ++ [':', ':'] ++ write (pieces.drop (i + run))
  | none => write pieces

/-! ## Hosts -/

/-- The host that a text in brackets writes. -/
def bracketHost (cs : List Char) : Except Flaw (List Char) :=
  if cs.getLast? != some ']' then .error .badLongAddress
  else match longAddress? (cs.drop 1).dropLast with
    | some pieces => .ok (['['] ++ longAddressText pieces ++ [']'])
    | none => .error .badLongAddress

/-- The normal form of the host of a URL whose scheme has rules for hosts. -/
def specialHost (cs : List Char) : Except Flaw (List Char) :=
  if cs.head? == some '[' then bracketHost cs
  else
    let bytes := percentDecode (Utf8.encode (String.ofList cs))
    match (Utf8.decode? bytes).bind fun s => Domain.toAscii? isForbidden s.toList with
    | none => .error .badName
    | some name =>
        if name.isEmpty then .error .emptyHost
        else if endsInNumber name then
          match address? name with
          | some n => .ok (addressText n)
          | none => .error .badAddress
        else .ok name

/-- The normal form of any other host. -/
def plainHost (cs : List Char) : Except Flaw (List Char) :=
  if cs.head? == some '[' then bracketHost cs
  else if cs.any fun c => c != '%' && isForbidden c &&
      (c.toNat == 0 || c == '\t' || c == '\n' || c == '\r' || 0x20 ≤ c.toNat && c != '\x7f') then
    .error .badHost
  else .ok (percentEncode (fun _ => false) cs)

end FleetGate.Url
