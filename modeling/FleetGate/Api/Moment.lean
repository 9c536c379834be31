import FleetGate.Calendar
import FleetGate.Numeric.Decimal
import FleetGate.Text.Blank
import FleetGate.Text.Reader

/-!
# Points in time

Objects say when they were made: a date, a time of day and a zone, such as
`2024-01-31T12:00:00Z`.  They are read with some leeway.

* Blanks may stand in front of every number and sign, before the zone, and at the end.
* Months, days, hours, minutes and seconds may have one digit, and years fewer than four.
  A year with a sign may have more.
* A zone is `Z`, `UTC` in letters of any case, or an offset with a sign of two digits for
  the hours and two for the minutes.  Between these may stand colons and blanks.
* A minute may have a second too many.

Years go about a quarter of a million in either direction, and a point in time must be in
them in universal time too.
-/

namespace FleetGate.Api.Moment

open Text Text.Reader Numeric

/-- Any blanks. -/
def blanks : Reader Unit := do let _ ← takeWhile isBlank

/-- A number of at most so many digits after blanks. -/
def number (width : Nat) : Reader Nat := do
  blanks
  fun cs =>
    let ds := (cs.take width).takeWhile Char.isDigit
    if ds.isEmpty then none else some (digitsValue ds, cs.drop ds.length)

/-- A sign between two numbers after blanks. -/
def mark (c : Char) : Reader Unit := do
  blanks
  char c

/-- The first year. -/
def firstYear : Int := -262143

/-- The last year. -/
def lastYear : Int := 262142

/-- A year. -/
def year : Reader Int := do
  blanks
  let y : Int ←
    (do char '-'; return -(digitsValue (← takeSome Char.isDigit) : Int)) <|>
    (do char '+'; return digitsValue (← takeSome Char.isDigit)) <|>
    (do return (← number 4))
  if firstYear ≤ y && y ≤ lastYear then pure y else failure

/-- A date: the year, the month and the day. -/
def date : Reader (Int × Nat × Nat) := do
  let y ← year
  mark '-'
  let m ← number 2
  mark '-'
  let d ← number 2
  if Calendar.isDate y m d then pure (y, m, d) else failure

/-- A time of day, in minutes since midnight. -/
def time : Reader Nat := do
  let hour ← number 2
  mark ':'
  let minute ← number 2
  mark ':'
  let second ← number 2
  if ← tryChar '.' then
    let _ ← takeSome Char.isDigit
  if hour < 24 && minute < 60 && second ≤ 60 then pure (hour * 60 + minute) else failure

/-- An offset from universal time, in minutes. -/
def offset : Reader Int := do
  let sign ← satisfy fun c => c == '+' || c == '-' || c == '\u2212'
  let hours ← count 2 Char.isDigit
  let _ ← takeWhile fun c => c == ':' || isBlank c
  let minutes ← count 2 Char.isDigit
  let size := digitsValue hours * 60 + digitsValue minutes
  if digitsValue hours < 24 && digitsValue minutes < 60 then
    pure (if sign == '+' then (size : Int) else -size)
  else failure

/-- A letter in either case. -/
def letter (c : Char) : Reader Unit := do let _ ← satisfy fun d => d.toLower == c

/-- A zone, as its offset from universal time. -/
def zone : Reader Int :=
  (do letter 'z'; return 0) <|> (do letter 'u'; letter 't'; letter 'c'; return 0) <|> offset

/-- Whether a time of day at an offset is in the range of years in universal time as well. -/
def isInRange (day : Int × Nat × Nat) (minutes : Nat) (shift : Int) : Bool :=
  let universal := (minutes : Int) - shift
  !(universal < 0 && day == (firstYear, 1, 1)) && !(1440 ≤ universal && day == (lastYear, 12, 31))

/-- A point in time. -/
def moment : Reader Unit := do
  let day ← date
  let _ ← satisfy fun c => c == 'T' || c == 't' || c == ' '
  let minutes ← time
  blanks
  let shift ← zone
  blanks
  if isInRange day minutes shift then pure () else failure

/-- Whether a text is a point in time. -/
def isMoment (s : String) : Bool := (moment.whole? s).isSome

example : isMoment "2024-2-9 1:2:60.5 +01 30 " = true := by decide
example : isMoment "+262142-12-31T23:59:59-00:01" = false := by decide

end FleetGate.Api.Moment
