import CardPress.Yaml.Failure

/-!
# Dates and times

Days of the proleptic Gregorian calendar from year 1 on, and moments of a day with an optional
offset from universal time.
-/

namespace CardPress
namespace Yaml

/-- A day of the calendar. -/
structure Day where
  year : Nat
  month : Nat
  day : Nat
  deriving DecidableEq, Repr, Inhabited

/-- A moment of a day. -/
structure Moment where
  date : Day
  hour : Nat
  minute : Nat
  second : Nat
  microsecond : Nat
  /-- Offset from universal time in seconds, for moments that name one. -/
  offset : Option Int
  deriving DecidableEq, Repr, Inhabited

/-- Whether a year has a leap day. -/
def isLeap (year : Nat) : Bool :=
  year % 4 == 0 && (year % 100 != 0 || year % 400 == 0)

/-- The number of days in a month. -/
def daysIn (year month : Nat) : Nat :=
  if month = 2 then (if isLeap year then 29 else 28)
  else if month = 4 ∨ month = 6 ∨ month = 9 ∨ month = 11 then 30
  else 31

/-- The day with a year of four digits, when the calendar has it. -/
def Day.check (date : Day) : Except CalendarFault Unit :=
  if date.year = 0 then .error (.year 0)
  else if date.month < 1 ∨ 12 < date.month then .error .month
  else if date.day < 1 ∨ daysIn date.year date.month < date.day then .error .day
  else .ok ()

/-- The first field of a moment that is out of range; offsets are looked at before all others. -/
def Moment.check (moment : Moment) : Except CalendarFault Unit := do
  match moment.offset with
  | some seconds => if 86400 ≤ seconds.natAbs then throw (.offset seconds)
  | none => pure ()
  moment.date.check
  if 23 < moment.hour then throw .hour
  if 59 < moment.minute then throw .minute
  if 59 < moment.second then throw .second

/-- A number with zeros in front up to a width. -/
def padded (width value : Nat) : String :=
  let digits := Nat.toDigits 10 value
  String.ofList (List.replicate (width - digits.length) '0' ++ digits)

/-- A day as `2024-01-02`. -/
def Day.text (date : Day) : String :=
  padded 4 date.year ++ "-" ++ padded 2 date.month ++ "-" ++ padded 2 date.day

/-- An offset as `+05:30`. -/
def offsetText (seconds : Int) : String :=
  let minutes := seconds.natAbs / 60
  (if seconds < 0 then "-" else "+") ++ padded 2 (minutes / 60) ++ ":" ++ padded 2 (minutes % 60)

/-- A moment as `2024-01-02 03:04:05`, with its fraction and offset when it has them. -/
def Moment.text (moment : Moment) : String :=
  moment.date.text ++ " " ++ padded 2 moment.hour ++ ":" ++ padded 2 moment.minute ++ ":" ++
    padded 2 moment.second ++
    (if moment.microsecond = 0 then "" else "." ++ padded 6 moment.microsecond) ++
    (moment.offset.map offsetText).getD ""

/-- The number of days before the first of January of a year. -/
def daysBefore (year : Nat) : Nat :=
  let past := year - 1
  past * 365 + past / 4 - past / 100 + past / 400

/-- The number of a day, where the first day of year 1 is 1. -/
def Day.ordinal (date : Day) : Nat :=
  daysBefore date.year +
    ((List.range (date.month - 1)).map fun index => daysIn date.year (index + 1)).foldr (· + ·) 0 +
      date.day

/-- Microseconds since the first day, in universal time for moments with an offset. -/
def Moment.instant (moment : Moment) : Int :=
  let seconds : Int :=
    (((moment.date.ordinal * 24 + moment.hour) * 60 + moment.minute) * 60 + moment.second : Nat)
  (seconds - moment.offset.getD 0) * 1000000 + moment.microsecond

/-- Whether two moments are the same instant; one with an offset never equals one without. -/
def Moment.same (first second : Moment) : Bool :=
  first.offset.isSome == second.offset.isSome && first.instant == second.instant

end Yaml
end CardPress
