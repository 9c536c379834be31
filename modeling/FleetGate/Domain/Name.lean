import FleetGate.Domain.Direction
import FleetGate.Domain.Folding
import FleetGate.Domain.Joining
import FleetGate.Domain.Punycode

/-!
# Domain names in ASCII

A domain name is folded, cut at its dots into labels, and each label with letters beyond
ASCII is written in ASCII after the mark `xn--`.  A label that has the mark already must
be what such a label is written as.

A label may not begin with a combining mark nor hold a refused character, and the
characters that say how letters join must stand where they may.  If any letter of the
name runs from right to left, every label must run in one direction.
-/

namespace FleetGate.Domain

/-- The parts of a name between its dots. -/
def labelsOf : List Char → List (List Char)
  | [] => [[]]
  | c :: cs =>
      if c == '.' then [] :: labelsOf cs
      else match labelsOf cs with
        | [] => [[c]]
        | label :: labels => (c :: label) :: labels

/-- Whether all characters are in ASCII. -/
def isAscii (cs : List Char) : Bool := cs.all (·.toNat < 0x80)

/-- The mark of a label that was written in ASCII. -/
def mark : List Char := ['x', 'n', '-', '-']

/-- Whether the characters of a label beyond ASCII may stand together. -/
def isSound (label : List Char) : Bool :=
  !label.head?.any isMark && label.all (fun c => c.toNat < 0x80 || !isRefused c) &&
    joinersInPlace [] label

/-- The longest label that is written in ASCII. -/
def longestLabel : Nat := 1000

/-- The longest text after the mark that is read. -/
def longestWritten : Nat := 2000

/-- The label that follows the mark. -/
def unmark? (written : List Char) : Option (List Char) := do
  if written.isEmpty || written.getLast? == some '-' || longestWritten < written.length then none
  else
    let label ← Punycode.decode? written
    if isAscii label || fold label != label || !isSound label then none
    else pure label

/-- The letters of a folded label. -/
def plainLabel? (label : List Char) : Option (List Char) :=
  if mark.isPrefixOf label then
    if isAscii label then unmark? (label.drop mark.length) else none
  else if isAscii label || (isSound label && label.length ≤ longestLabel) then some label
  else none

/-- A label in ASCII. -/
def asciiLabel (label : List Char) : List Char :=
  if isAscii label then label else mark ++ Punycode.encode label

/-- A domain name in ASCII, without characters that are forbidden. -/
def toAscii? (forbidden : Char → Bool) (cs : List Char) : Option (List Char) := do
  let folded := fold cs
  if folded.any fun c => c.toNat < 0x80 && forbidden c then none
  else
    let labels ← (labelsOf folded).mapM plainLabel?
    if (labels.any fun label => label.any runsRight) && !labels.all runsOneWay then none
    else pure ((['.'] : List Char).intercalate (labels.map asciiLabel))

end FleetGate.Domain
