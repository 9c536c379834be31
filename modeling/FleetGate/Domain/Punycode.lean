/-!
# Letters beyond ASCII in ASCII host names

A label of a host name with letters beyond ASCII is written in ASCII: first the
ASCII letters it has, then, in digits of base thirty-six, where the others go
and which they are.  The others are inserted in order of their code points, and
each number is the count of places passed since the last insertion.  The number
of digits adapts to the sizes seen so far.
-/

namespace FleetGate.Domain.Punycode

/-- The digit of a value below thirty-six: a letter, or from 26 a figure. -/
def digit (d : Nat) : Char := Char.ofNat (if d < 26 then 0x61 + d else 0x30 + (d - 26))

/-- The value of a digit. -/
def digitValue? (c : Char) : Option Nat :=
  if 'a' ≤ c && c ≤ 'z' then some (c.toNat - 'a'.toNat)
  else if 'A' ≤ c && c ≤ 'Z' then some (c.toNat - 'A'.toNat)
  else if c.isDigit then some (c.toNat - '0'.toNat + 26)
  else none

/-- The threshold of a digit at a place, under the present bias. -/
def threshold (place bias : Nat) : Nat :=
  if place ≤ bias then 1 else if bias + 26 ≤ place then 26 else place - bias

/-- Divides a size down to a bias. -/
def shrink (k : Nat) : Nat → Nat → Nat
  | 0, delta => k + 36 * delta / (delta + 38)
  | fuel + 1, delta =>
      if 455 < delta then shrink (k + 36) fuel (delta / 35) else k + 36 * delta / (delta + 38)

/-- The bias after a size was written. -/
def adapt (delta count : Nat) (first : Bool) : Nat :=
  let delta := if first then delta / 700 else delta / 2
  shrink 0 64 (delta + delta / count)

/-- The digits of a number under a bias. -/
def digits (bias : Nat) : Nat → Nat → Nat → List Char
  | 0, _, _ => []
  | fuel + 1, place, q =>
      let t := threshold place bias
      if q < t then [digit q]
      else digit (t + (q - t) % (36 - t)) :: digits bias fuel (place + 36) ((q - t) / (36 - t))

/-- Where the writer is: the code point being inserted, the places passed, the bias
and the number of characters written. -/
structure Progress where
  /-- The code point being inserted. -/
  point : Nat
  /-- The places passed since the last insertion. -/
  delta : Nat
  /-- The bias. -/
  bias : Nat
  /-- The characters written. -/
  count : Nat

/-- Passes over the label once, writing every place of one code point. -/
def insertAll (basic : Nat) (p : Progress) : List Nat → Progress × List Char
  | [] => (p, [])
  | c :: cs =>
      if c < p.point then insertAll basic { p with delta := p.delta + 1 } cs
      else if c == p.point then
        let here := digits p.bias 16 36 p.delta
        let bias := adapt p.delta (p.count + 1) (p.count == basic)
        let (p, rest) := insertAll basic { p with delta := 0, bias := bias, count := p.count + 1 } cs
        (p, here ++ rest)
      else insertAll basic p cs

/-- Inserts code points from the least one on. -/
def insertPoints (basic : Nat) (label : List Nat) : Nat → Progress → List Char
  | 0, _ => []
  | fuel + 1, p =>
      match (label.filter (p.point ≤ ·)).min? with
      | none => []
      | some least =>
          let delta := p.delta + (least - p.point) * (p.count + 1)
          let (q, written) := insertAll basic { p with point := least, delta := delta } label
          written ++ insertPoints basic label fuel
            { q with point := least + 1, delta := q.delta + 1 }

/-- The ASCII form of a label, without its mark. -/
def encode (label : List Char) : List Char :=
  let basic := label.filter (·.toNat < 0x80)
  let front := if basic.isEmpty then [] else basic ++ ['-']
  front ++ insertPoints basic.length (label.map Char.toNat) (label.length + 1)
    ⟨0x80, 0, 72, basic.length⟩

/-- Reads one number under a bias.  Numbers beyond 32 bits are refused. -/
def number (bias : Nat) : Nat → Nat → Nat → List Char → Option (Nat × List Char)
  | _, _, _, [] => none
  | place, weight, total, c :: cs =>
      match digitValue? c with
      | none => none
      | some d =>
          let total := total + d * weight
          let t := threshold place bias
          if 1 <<< 32 ≤ total then none
          else if d < t then some (total, cs)
          else if 1 <<< 32 ≤ weight * (36 - t) then none
          else number bias (place + 36) (weight * (36 - t)) total cs

/-- Inserts the characters that numbers describe. -/
def insertions : Nat → Nat → Nat → Nat → List Nat → List Char → Option (List Nat)
  | 0, _, _, _, _, _ => none
  | _ + 1, _, _, _, label, [] => some label
  | fuel + 1, point, place, bias, label, cs => do
      let (n, rest) ← number bias 36 1 0 cs
      let count := label.length + 1
      let bias := adapt n count (place == 0 && point == 0x80)
      let at_ := place + n
      let point := point + at_ / count
      let index := at_ % count
      if 0x110000 ≤ point || (0xd800 ≤ point && point ≤ 0xdfff) then none
      else
        insertions fuel point (index + 1) bias (label.take index ++ [point] ++ label.drop index) rest

/-- The label of an ASCII form without its mark. -/
def decode? (cs : List Char) : Option (List Char) :=
  let back := cs.reverse.takeWhile (· != '-')
  let front := (cs.take (cs.length - back.length)).dropLast
  let tail := if front.isEmpty then cs else back.reverse
  do
    let label ← insertions (cs.length + 1) 0x80 0 72 (front.map Char.toNat) tail
    pure (label.map Char.ofNat)

example : encode "bücher".toList = "bcher-kva".toList := by decide
example : decode? "bcher-kva".toList = some "bücher".toList := by decide

end FleetGate.Domain.Punycode
