import FleetGate.Yaml.Tag

/-!
# Directives of YAML documents

A line that begins with a percent sign says something of the document that
follows: the version of YAML that it is written in, or what a short form of tags
stands for.  Nothing else may be said.  A comment may end the line.
-/

namespace FleetGate.Yaml

/-- What is said of a document. -/
inductive Directive where
  /-- The version that it is written in. -/
  | version (major minor : Nat)
  /-- What a short form of tags stands for. -/
  | short (handle : String) (full : List UInt8)
deriving DecidableEq, Repr, Inhabited

namespace Directive

/-- The most digits of a number of a version. -/
def maxDigits : Nat := 9

/-- The number at the front and what follows it. -/
def number? (cs : List Char) : Option (Nat × List Char) :=
  let digits := cs.takeWhile Char.isDigit
  if digits.isEmpty || maxDigits < digits.length then none
  else some (Numeric.digitsValue digits, cs.drop digits.length)

/-- Whether nothing but blanks and a comment is left of a line. -/
def isOver (cs : List Char) : Bool :=
  match cs.dropWhile isBlank with
  | [] => true
  | c :: _ => c == '#'

/-- The version that a line gives after the name of the directive. -/
def version? (cs : List Char) : Option Directive := do
  let (major, cs) ← number? (cs.dropWhile isBlank)
  match cs with
  | '.' :: cs => do
      let (minor, cs) ← number? cs
      if isOver cs then pure (.version major minor) else none
  | _ => none

/-- The short form that a line declares after the name of the directive. -/
def short? (cs : List Char) : Option Directive := do
  let cs := cs.dropWhile isBlank
  if cs.head? != some '!' then none
  else
    let (handle, cs) := Tag.handle cs
    if !cs.head?.any isBlank then none
    else
      let cs := cs.dropWhile isBlank
      let (full, n) ← Tag.part? true cs
      if n == 0 || !isApart (cs.drop n) || !isOver (cs.drop n) then none
      else pure (.short handle full)

/-- The directive of a line, without the percent sign. -/
def ofLine? (line : List Char) : Option Directive :=
  let name := line.takeWhile Tag.isNameChar
  let rest := line.drop name.length
  if !isApart rest then none
  else match String.ofList name with
    | "YAML" => version? rest
    | "TAG" => short? rest
    | _ => none

example : ofLine? "YAML 1.1#c".toList = some (.version 1 1) := by decide +kernel
example : ofLine? "YAML 0000000001.1".toList = none := by decide +kernel

end Directive

end FleetGate.Yaml
