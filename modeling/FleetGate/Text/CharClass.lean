/-!
# Classes of characters

A class of characters is given by the points where it starts and stops, in turn, so a
character is in the class when an odd number of points lies at or below it.
-/

namespace FleetGate.Text

/-- Whether a code point lies in the class that `bounds` starts and stops. -/
def inClass (bounds : List Nat) (n : Nat) : Bool :=
  (bounds.takeWhile (· ≤ n)).length % 2 == 1

example : inClass [0x30, 0x3a] 0x30 = true := by decide
example : inClass [0x30, 0x3a] 0x3a = false := by decide

end FleetGate.Text
