import FleetGate.Domain.Accents
import FleetGate.Domain.Letters
import FleetGate.Domain.Ligatures
import FleetGate.Domain.Refused

/-!
# One form of each host name

Two host names that look the same or differ in capitals only are one name.  A name is
folded in four steps.

* Each character is replaced by what it stands for.
* Each letter with accents is taken apart.
* The accents of a letter are ordered by the place where they stand.
* Letters and accents are put together again, the first accent of a place first.

Korean syllables are taken apart into two or three letters and put together likewise, by
their numbers.
-/

namespace FleetGate.Domain

/-- What a character stands for. -/
def standsFor (c : Char) : List Char :=
  let n := c.toNat
  if n < 0x80 then [c.toLower]
  else if isDropped c then []
  else match regularLetters.find? fun (low, high, step, _) =>
      low ≤ n && n ≤ high && (n - low) % step == 0 with
    | some (low, _, _, target) => [Char.ofNat (target + (n - low))]
    | none =>
        match otherLetters.find? fun (low, row) => low ≤ n && n < low + row.length with
        | some (low, row) => ((row[n - low]?).map Char.ofNat).toList
        | none => match ligatures.find? (·.1 == n) with
          | some (_, targets) => targets.map Char.ofNat
          | none => [c]

/-! ## Korean syllables -/

/-- The first syllable. -/
def firstSyllable : Nat := 0xac00

/-- The number of syllables. -/
def syllables : Nat := 11172

/-- The letters of a syllable: one that opens it, a vowel, and perhaps one that closes it. -/
def syllableLetters (n : Nat) : List Nat :=
  let i := n - firstSyllable
  [0x1100 + i / 588, 0x1161 + i % 588 / 28] ++ (if i % 28 == 0 then [] else [0x11a7 + i % 28])

/-- The syllable of an opening letter and a vowel, or of a syllable and a closing letter. -/
def syllable? (a b : Nat) : Option Nat :=
  if 0x1100 ≤ a && a < 0x1113 && 0x1161 ≤ b && b < 0x1176 then
    some (firstSyllable + (a - 0x1100) * 588 + (b - 0x1161) * 28)
  else if firstSyllable ≤ a && a < firstSyllable + syllables && (a - firstSyllable) % 28 == 0 &&
      0x11a7 < b && b < 0x11c3 then
    some (a + (b - 0x11a7))
  else none

/-! ## Letters and accents -/

/-- A letter without its accents, and these.  A letter has at most four. -/
def takeApart : Nat → Nat → List Nat
  | 0, n => [n]
  | fuel + 1, n =>
      match letterAndMark? n with
      | some (letter, mark) => takeApart fuel letter ++ [mark]
      | none => [n]

/-- The parts of a character. -/
def parts (c : Char) : List Char :=
  let n := c.toNat
  if n < 0xc0 then [c]
  else if firstSyllable ≤ n && n < firstSyllable + syllables then
    (syllableLetters n).map Char.ofNat
  else (takeApart 4 n).map Char.ofNat

/-- Puts a character behind the accents that belong in front of it. -/
def sink (c : Char) : List Char → List Char
  | [] => [c]
  | d :: ds => if place d != 0 && place d < place c then d :: sink c ds else c :: d :: ds

/-- The accents of each letter in the order of their places. -/
def inOrder (cs : List Char) : List Char := cs.foldr sink []

/-- A letter and an accent as one letter. -/
def together? (a b : Char) : Option Char :=
  if b.toNat < 0x300 then none
  else (syllable? a.toNat b.toNat <|> withMark? a.toNat b.toNat).map Char.ofNat

/-- Puts accents on the letter in front of them.  `waiting` are those that could not be
put on it, in reverse.  One of these keeps off others of its place. -/
def composeAfter (letter : Char) (waiting : List Char) : List Char → List Char
  | [] => letter :: waiting.reverse
  | c :: cs =>
      let free := match waiting with
        | [] => true
        | d :: _ => place d < place c
      match if free then together? letter c else none with
      | some whole => composeAfter whole waiting cs
      | none =>
          if place c == 0 then letter :: waiting.reverse ++ composeAfter c [] cs
          else composeAfter letter (c :: waiting) cs

/-- Letters and accents put together. -/
def compose : List Char → List Char
  | [] => []
  | c :: cs => composeAfter c [] cs

/-- A name folded. -/
def fold (cs : List Char) : List Char :=
  compose (inOrder ((cs.flatMap standsFor).flatMap parts))

end FleetGate.Domain
