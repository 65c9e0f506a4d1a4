import CardPress.Text.CodeText

/-!
# Why a YAML text cannot be loaded

A text that is not well formed, and values whose text does not denote anything: dates outside the
calendar, numbers that cannot be read, and tagged scalars that do not fit their tag.
-/

namespace CardPress
namespace Yaml

/-- Why a moment is not in the calendar. -/
inductive CalendarFault where
  | year (value : Nat)
  | month
  | day
  | hour
  | minute
  | second
  /-- An offset from universal time of a whole day or more, in seconds. -/
  | offset (seconds : Int)
  deriving DecidableEq, Repr

/-- Why a YAML text cannot be loaded. -/
inductive Failure where
  /-- The text is not well formed, or a node has no value. -/
  | malformed
  /-- A date or time that does not exist. -/
  | calendar (fault : CalendarFault)
  /-- An integer that cannot be read in its base. -/
  | integer (base : Nat) (text : CodeText)
  /-- A decimal integer with more digits than are read. -/
  | tooManyDigits (count : Nat)
  /-- A decimal number that cannot be read. -/
  | real (text : CodeText)
  /-- An escaped code point above the last one; `huge` when it does not even fit 31 bits. -/
  | codePoint (huge : Bool)
  /-- A text tagged as a truth value that is none. -/
  | truthValue
  /-- A text tagged as a moment that is none. -/
  | moment
  /-- A number without any characters. -/
  | emptyNumber
  /-- A decimal number in base sixty with so many places that the first one is out of range. -/
  | tooManyPlaces
  /-- A mapping tagged as a moment, whose text stands at its `=`. -/
  | mappedMoment
  /-- A scalar whose text leads back to itself. -/
  | endless
  deriving DecidableEq, Repr

/-- A span of time in seconds as days and the seconds of the day, leaving zeros out. -/
def spanText (seconds : Int) : String :=
  let days := seconds.fdiv 86400
  let rest := seconds - days * 86400
  let parts :=
    (if days = 0 then [] else ["days=" ++ toString days]) ++
      (if rest = 0 then [] else ["seconds=" ++ toString rest])
  "datetime.timedelta(" ++ (if parts.isEmpty then "0" else ", ".intercalate parts) ++ ")"

/-- The report of a moment outside the calendar. -/
def CalendarFault.message : CalendarFault → String
  | year value => "year " ++ toString value ++ " is out of range"
  | month => "month must be in 1..12"
  | day => "day is out of range for month"
  | hour => "hour must be in 0..23"
  | minute => "minute must be in 0..59"
  | second => "second must be in 0..59"
  | offset seconds =>
      "offset must be a timedelta strictly between -timedelta(hours=24) and " ++
        "timedelta(hours=24), not " ++ spanText seconds ++ "."

/-- Greatest number of decimal digits that are converted from or to a text. -/
def digitLimit : Nat := 4300

/-- The report of a value that cannot be read, where one is given; a text that is not an integer
is shown up to two hundred characters. -/
def Failure.message? : Failure → Option String
  | calendar fault => some fault.message
  | integer base text =>
      some ("invalid literal for int() with base " ++ toString base ++ ": " ++
        String.ofList (text.quoted.toList.take 200))
  | tooManyDigits count =>
      some ("Exceeds the limit (" ++ toString digitLimit ++
        " digits) for integer string conversion: value has " ++ toString count ++
        " digits; use sys.set_int_max_str_digits() to increase the limit")
  | real text => some ("could not convert string to float: " ++ text.quoted)
  | codePoint false => some "chr() arg not in range(0x110000)"
  | _ => none

end Yaml
end CardPress
