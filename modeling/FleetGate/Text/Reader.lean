/-!
# Readers

A reader takes a value off the front of a text.  It either fails or gives back
the value and the characters after it, and a choice between two readers tries
the second from where the first began.
-/

namespace FleetGate.Text

/-- Takes a value off the front of a text. -/
abbrev Reader := StateT (List Char) Option

namespace Reader

/-- The character at the front, which stays there. -/
def peek : Reader (Option Char) := fun cs => some (cs.head?, cs)

/-- The characters at the front that pass a test, all of them. -/
def takeWhile (p : Char → Bool) : Reader (List Char) := fun cs =>
  some (cs.takeWhile p, cs.dropWhile p)

/-- The character at the front, which must pass a test. -/
def satisfy (p : Char → Bool) : Reader Char
  | [] => none
  | c :: cs => if p c then some (c, cs) else none

/-- The character at the front, which must be the given one. -/
def char (c : Char) : Reader Unit := fun cs =>
  match cs with
  | [] => none
  | d :: rest => if c = d then some ((), rest) else none

/-- The text at the front, which must be the given one. -/
def text (s : String) : Reader Unit := fun cs =>
  if s.toList.isPrefixOf cs then some ((), cs.drop s.length) else none

/-- Whether the given character is at the front, which is taken if so. -/
def tryChar (c : Char) : Reader Bool := fun cs =>
  match cs with
  | [] => some (false, [])
  | d :: rest => if c = d then some (true, rest) else some (false, d :: rest)

/-- At least one character that passes a test, and all of them. -/
def takeSome (p : Char → Bool) : Reader (List Char) := fun cs =>
  let front := cs.takeWhile p
  if front.isEmpty then none else some (front, cs.dropWhile p)

/-- Exactly so many characters that pass a test. -/
def count (n : Nat) (p : Char → Bool) : Reader (List Char) := fun cs =>
  let front := cs.take n
  if front.length == n && front.all p then some (front, cs.drop n) else none

/-- A value if there is one. -/
def maybe {α : Type} (r : Reader α) : Reader (Option α) := fun cs =>
  match r cs with
  | some (a, rest) => some (some a, rest)
  | none => some (none, cs)

/-- Whether the text is over. -/
def isDone : Reader Bool := fun cs => some (cs.isEmpty, cs)

/-- A value whose reader must use up the text. -/
def whole? {α : Type} (r : Reader α) (s : String) : Option α :=
  match r s.toList with
  | some (a, []) => some a
  | _ => none

end Reader

end FleetGate.Text
