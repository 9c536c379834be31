/-!
# Blank characters

Tokens, counts and rates are read after the blanks around them are dropped.
A blank is a character with the Unicode property `White_Space`, twenty-five
characters in all, of which ASCII has six.
-/

namespace FleetGate.Text

/-- Whether a character has the Unicode property `White_Space`. -/
def isBlank (c : Char) : Bool :=
  let n := c.toNat
  (9 ≤ n && n ≤ 13) || n == 0x20 || n == 0x85 || n == 0xa0 || n == 0x1680 ||
    (0x2000 ≤ n && n ≤ 0x200a) || n == 0x2028 || n == 0x2029 || n == 0x202f ||
    n == 0x205f || n == 0x3000

/-- The characters without the blanks at either end. -/
def trimChars (cs : List Char) : List Char :=
  ((cs.dropWhile isBlank).reverse.dropWhile isBlank).reverse

/-- A text without the blanks at either end. -/
def trim (s : String) : String := String.ofList (trimChars s.toList)

/-- What is left after the blanks in front does not start with one. -/
theorem not_isBlank_of_dropWhile {c : Char} {cs rest : List Char}
    (h : cs.dropWhile isBlank = c :: rest) : isBlank c = false := by
  have := List.head?_dropWhile_not isBlank cs
  rw [h] at this
  simpa using this

example : trim "\t a b\x0b\n" = "a b" := by decide

end FleetGate.Text
