import TurtleGraphics.Number.Double
import TurtleGraphics.Text.Hexadecimal

/-! # Moments

A moment is a date and a time of day in the calendar of today. It is found from seconds since the
start of 1970, rounded to whole microseconds. Only years of one to four digits are written.
-/

namespace TurtleGraphics

/-- A number of seconds since the start of 1970. -/
inductive Seconds where
  | whole (n : Int)
  | real (x : Float)

/-- A date and a time of day. -/
structure Moment where
  year : Int
  /-- The month, from one on. -/
  month : Nat
  /-- The day of the month, from one on. -/
  day : Nat
  /-- Hours since midnight. -/
  hour : Nat
  minute : Nat
  second : Nat
  /-- Millionths of the second. -/
  microsecond : Nat
  deriving Repr, DecidableEq

/-- Why seconds stand for no moment. -/
inductive MomentFault where
  /-- The result of an undefined operation is no time. -/
  | notANumber
  /-- The seconds do not fit a signed number of 64 bits. -/
  | beyondClock
  /-- The years since 1900 do not fit a signed number of 32 bits. -/
  | beyondCalendar
  /-- The year has no digit or too many. -/
  | yearOutOfRange (year : Int)
  deriving Repr, DecidableEq

namespace MomentFault

/-- The wording of the fault. A year is shown as a signed number of 32 bits. -/
def message : MomentFault → String
  | .notANumber => "Invalid value NaN (not a number)"
  | .beyondClock => "timestamp out of range for platform time_t"
  | .beyondCalendar => "[Errno 75] Value too large for defined data type"
  | .yearOutOfRange year => "year " ++ toString (year.bmod (Nat.pow 2 32)) ++ " is out of range"

end MomentFault

namespace Moment

/-- The year, month and day of a day counted from the start of 1970. Years are counted from March
    here, so that a leap day is the last day of its year. -/
def dateOf (days : Int) : Int × Nat × Nat :=
  let shifted := days + 719468
  let era := shifted / 146097
  let dayOfEra := (shifted % 146097).toNat
  let yearOfEra := (dayOfEra - dayOfEra / 1460 + dayOfEra / 36524 - dayOfEra / 146096) / 365
  let dayOfYear := dayOfEra - (365 * yearOfEra + yearOfEra / 4 - yearOfEra / 100)
  let fromMarch := (5 * dayOfYear + 2) / 153
  let day := dayOfYear - (153 * fromMarch + 2) / 5 + 1
  let month := if fromMarch < 10 then fromMarch + 3 else fromMarch - 9
  let year := (yearOfEra : Int) + era * 400
  (if month ≤ 2 then year + 1 else year, month, day)

def ofMicroseconds (total : Int) : Moment :=
  let seconds := total / 1000000
  let (year, month, day) := dateOf (seconds / 86400)
  let rest := (seconds % 86400).toNat
  { year, month, day
    hour := rest / 3600
    minute := rest / 60 % 60
    second := rest % 60
    microsecond := (total % 1000000).toNat }

/-- Microseconds of a number of seconds. Of a double only the fraction is multiplied, and then
    rounded to the nearest integer, the even one of two. -/
def microsecondsOf : Seconds → Except NumberFault Int
  | .whole n => .ok (n * 1000000)
  | .real x => do
    let whole ← Double.truncate x
    let fraction := x - (← Double.ofInt whole)
    return whole * 1000000 + (← Double.nearestEven (fraction * 1000000.0))

/-- The moment, if its year can be written. -/
def check (m : Moment) : Except MomentFault Moment :=
  if m.year - 1900 < -(Int.pow 2 31) ∨ Int.pow 2 31 ≤ m.year - 1900 then .error .beyondCalendar
  else if m.year < 1 ∨ 9999 < m.year then .error (.yearOutOfRange m.year)
  else .ok m

def ofSeconds (seconds : Seconds) : Except MomentFault Moment :=
  match microsecondsOf seconds with
  | .error .notANumber => .error .notANumber
  | .error _ => .error .beyondClock
  | .ok total =>
    let whole := total / 1000000
    if whole < -(Int.pow 2 63) ∨ Int.pow 2 63 ≤ whole then .error .beyondClock
      else (ofMicroseconds total).check

/-- A number with at least so many digits. -/
def digits (width n : Nat) : String :=
  String.ofList (Text.padLeft '0' width (Nat.toDigits 10 n))

def upToSecond (year : String) (m : Moment) : String :=
  year ++ "-" ++ digits 2 m.month ++ "-" ++ digits 2 m.day ++ "T" ++ digits 2 m.hour ++ ":" ++
    digits 2 m.minute ++ ":" ++ digits 2 m.second

/-- The moment with milliseconds, which are cut off and not rounded. -/
def short (m : Moment) : String :=
  upToSecond (toString m.year) m ++ "." ++ digits 3 (m.microsecond / 1000) ++ "Z"

/-- The moment with its offset from universal time, and with microseconds unless they are zero. -/
def long (m : Moment) : String :=
  let fraction := if m.microsecond = 0 then "" else "." ++ digits 6 m.microsecond
  upToSecond (digits 4 m.year.toNat) m ++ fraction ++ "+00:00"

end Moment

end TurtleGraphics
