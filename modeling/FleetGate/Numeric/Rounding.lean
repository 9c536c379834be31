/-!
# Rounding to the nearest

Every inexact number of this library comes from one operation: an exact
quotient of naturals is rounded to the nearest natural, and a tie goes to the
even neighbour.
-/

namespace FleetGate.Numeric

/-- The natural nearest to `num / den`, the even one of two at equal distance. -/
def roundDiv (num den : Nat) : Nat :=
  let q := num / den
  let twice := 2 * (num % den)
  if twice < den || (twice == den && q % 2 == 0) then q else q + 1

/-- A whole quotient is left as it is. -/
theorem roundDiv_mul_left (q : Nat) {den : Nat} (h : 0 < den) : roundDiv (q * den) den = q := by
  simp [roundDiv, Nat.mul_div_cancel _ h, h]

/-- The result is at most half a unit above the quotient. -/
theorem two_mul_roundDiv_le {num den : Nat} : 2 * (roundDiv num den * den) ≤ 2 * num + den := by
  have h := Nat.div_add_mod num den
  rw [Nat.mul_comm] at h
  simp only [roundDiv]
  split
  · omega
  · next hc =>
    simp only [Bool.or_eq_true, decide_eq_true_eq, Bool.and_eq_true, beq_iff_eq, not_or] at hc
    rw [Nat.add_mul]
    omega

/-- The result is at most half a unit below the quotient. -/
theorem le_two_mul_roundDiv {num den : Nat} (hd : 0 < den) :
    2 * num ≤ 2 * (roundDiv num den * den) + den := by
  have h := Nat.div_add_mod num den
  have hm := Nat.mod_lt num hd
  rw [Nat.mul_comm] at h
  simp only [roundDiv]
  split
  · next hc =>
    simp only [Bool.or_eq_true, decide_eq_true_eq, Bool.and_eq_true, beq_iff_eq] at hc
    omega
  · rw [Nat.add_mul]
    omega

example : [roundDiv 5 2, roundDiv 7 2, roundDiv 8 3, roundDiv 7 3] = [2, 4, 3, 2] := by decide

end FleetGate.Numeric
