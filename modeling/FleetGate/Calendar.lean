/-!
# The calendar

The lengths of months in the calendar that is in use today, taken back to all years
before it.
-/

namespace FleetGate.Calendar

/-- Whether a year has a leap day: every fourth year does, of the full centuries every
fourth. -/
def isLeap (year : Int) : Bool := year % 4 == 0 && (year % 100 != 0 || year % 400 == 0)

/-- The days of a month, which is counted from one. -/
def daysOf (year : Int) (month : Nat) : Nat :=
  if month == 2 then if isLeap year then 29 else 28
  else if [4, 6, 9, 11].contains month then 30
  else 31

/-- Whether a day is one of its month, and the month one of the year. -/
def isDate (year : Int) (month day : Nat) : Bool :=
  1 ≤ month && month ≤ 12 && 1 ≤ day && day ≤ daysOf year month

example : isDate 2000 2 29 = true ∧ isDate 1900 2 29 = false ∧ isDate 2024 4 31 = false := by
  decide

end FleetGate.Calendar
