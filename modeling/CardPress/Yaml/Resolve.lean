import CardPress.Decimal.Reader
import CardPress.Text.CodeText

/-!
# The type of a plain scalar

A plain scalar that looks like a truth value, a number, a moment or nothing is one; every other
scalar is a text.  The shapes are tried in a fixed order, and each only for some first characters.
-/

namespace CardPress
namespace Yaml

/-- The tags of the types that are built in. -/
def coreTag (name : String) : String :=
  "tag:yaml.org,2002:" ++ name

namespace Shape

/-- Decimal digits and underscores. -/
def isDigitMark (c : Char) : Bool :=
  c.isDigit || c = '_'

/-- A text without its sign. -/
def unsigned (chars : List Char) : List Char :=
  (Decimal.splitSign chars).2

/-- Whether a text is an exponent with a sign, or empty. -/
def isExponent : List Char → Bool
  | [] => true
  | letter :: sign :: rest =>
      (letter = 'e' || letter = 'E') && (sign = '+' || sign = '-') && !rest.isEmpty &&
        rest.all Char.isDigit
  | _ => false

/-- Whether a text is one or two digits below sixty. -/
def isSixtieth : List Char → Bool
  | [c] => c.isDigit
  | [c, d] => '0' ≤ c && c ≤ '5' && d.isDigit
  | _ => false

/-- Whether a text starts with a digit that `first` admits and goes on with digits and marks. -/
def isNumeral (first : Char → Bool) : List Char → Bool
  | [] => false
  | c :: rest => first c && rest.all isDigitMark

/-- Whether a text is a fraction behind its point, with an exponent or without. -/
def isFraction (chars : List Char) : Bool :=
  isExponent (chars.dropWhile isDigitMark)

/-- A truth value: one of six words, in three cases each. -/
def isTruth (chars : List Char) : Bool :=
  ["yes", "Yes", "YES", "no", "No", "NO", "true", "True", "TRUE", "false", "False", "FALSE", "on",
    "On", "ON", "off", "Off", "OFF"].any fun word => word.toList == chars

/-- A number with a point, in base ten or in base sixty, or one of the special values. -/
def isReal (chars : List Char) : Bool :=
  let rest := unsigned chars
  let whole := rest.takeWhile isDigitMark
  let decimal :=
    isNumeral Char.isDigit whole &&
      (match rest.drop whole.length with
      | '.' :: fraction => isFraction fraction
      | _ => false)
  let bare :=
    match chars with
    | '.' :: c :: fraction => c.isDigit && isFraction fraction
    | _ => false
  let sexagesimal :=
    match (rest.splitOn ':').reverse with
    | last :: middle =>
        match middle.reverse with
        | first :: places =>
            let seconds := last.takeWhile (· != '.')
            isNumeral Char.isDigit first && places.all isSixtieth && isSixtieth seconds &&
              (match last.drop seconds.length with
              | '.' :: fraction => fraction.all isDigitMark
              | _ => false)
        | [] => false
    | [] => false
  decimal || bare || sexagesimal ||
    [".inf", ".Inf", ".INF"].any (fun word => word.toList == rest) ||
    [".nan", ".NaN", ".NAN"].any (fun word => word.toList == chars)

/-- An integer in base two, eight, ten, sixteen or sixty. -/
def isInteger (chars : List Char) : Bool :=
  let rest := unsigned chars
  let nonzero (c : Char) : Bool := '1' ≤ c && c ≤ '9'
  let based :=
    match rest with
    | '0' :: 'b' :: c :: marks => (c :: marks).all fun c => c = '0' || c = '1' || c = '_'
    | '0' :: 'x' :: c :: marks =>
        (c :: marks).all fun c =>
          c.isDigit || ('a' ≤ c && c ≤ 'f') || ('A' ≤ c && c ≤ 'F') || c = '_'
    | '0' :: c :: marks => (c :: marks).all fun c => ('0' ≤ c && c ≤ '7') || c = '_'
    | _ => false
  let sexagesimal :=
    match rest.splitOn ':' with
    | first :: place :: places => isNumeral nonzero first && (place :: places).all isSixtieth
    | _ => false
  based || rest == ['0'] || isNumeral nonzero rest || sexagesimal

/-- Nothing: an empty text, a tilde, or the word for it. -/
def isNull (chars : List Char) : Bool :=
  ["", "~", "null", "Null", "NULL"].any fun word => word.toList == chars

/-- Exactly `count` digits in front of the rest. -/
def digits? (count : Nat) (chars : List Char) : Option (List Char × List Char) :=
  let front := chars.take count
  if front.length = count ∧ front.all Char.isDigit then some (front, chars.drop count) else none

/-- One or two digits in front of the rest. -/
def shortDigits? (chars : List Char) : Option (List Char × List Char) :=
  digits? 2 chars <|> digits? 1 chars

/-- A given character in front of the rest. -/
def drop? (c : Char) (chars : List Char) : Option (List Char) :=
  if chars.head? = some c then some chars.tail else none

/-- The parts of a moment as they are written. -/
structure Written where
  year : List Char
  month : List Char
  day : List Char
  /-- Hour, minute, second and the digits of the fraction. -/
  time : Option (List Char × List Char × List Char × List Char)
  /-- Whether universal time is named. -/
  universal : Bool
  /-- Sign, hours and minutes of an offset. -/
  offset : Option (Char × List Char × List Char)

/-- The offset at the end of a moment, with blanks in front of it. -/
def zone? (chars : List Char) : Option (Bool × Option (Char × List Char × List Char)) :=
  if chars.isEmpty then some (false, none)
  else
    match chars.dropWhile fun c => c = ' ' || c = '\t' with
    | ['Z'] => some (true, none)
    | sign :: rest =>
        if sign = '+' ∨ sign = '-' then do
          let (hours, rest) ← shortDigits? rest
          match rest with
          | [] => some (false, some (sign, hours, []))
          | _ => do
              let (minutes, rest) ← digits? 2 (← drop? ':' rest)
              if rest.isEmpty then some (false, some (sign, hours, minutes)) else none
        else
          none
    | [] => none

/-- The rest of a text after what stands between a day and a time. -/
def dropTimeMark? (chars : List Char) : Option (List Char) :=
  match chars with
  | 'T' :: rest => some rest
  | 't' :: rest => some rest
  | _ =>
      let rest := chars.dropWhile fun c => c = ' ' || c = '\t'
      if rest.length < chars.length then some rest else none

/-- The digits of a fraction of a second, when a point stands in front of them. -/
def splitSecond (chars : List Char) : List Char × List Char :=
  match chars with
  | '.' :: rest => (rest.takeWhile Char.isDigit, rest.dropWhile Char.isDigit)
  | _ => ([], chars)

/-- The parts of a moment; months, days and hours may have one digit. -/
def written? (chars : List Char) : Option Written := do
  let (year, rest) ← digits? 4 chars
  let (month, rest) ← shortDigits? (← drop? '-' rest)
  let (day, rest) ← shortDigits? (← drop? '-' rest)
  if rest.isEmpty then
    return { year, month, day, time := none, universal := false, offset := none }
  let (hour, rest) ← shortDigits? (← dropTimeMark? rest)
  let (minute, rest) ← digits? 2 (← drop? ':' rest)
  let (second, rest) ← digits? 2 (← drop? ':' rest)
  let (fraction, rest) := splitSecond rest
  let (universal, offset) ← zone? rest
  return { year, month, day, time := some (hour, minute, second, fraction), universal, offset }

/-- A moment; a day alone needs two digits for the month and for the day. -/
def isMoment (chars : List Char) : Bool :=
  match written? chars with
  | some parts => parts.time.isSome || (parts.month.length == 2 && parts.day.length == 2)
  | none => false

end Shape

/-- A text without one line feed at its end, which no shape minds. -/
def withoutLineFeed (chars : List Char) : List Char :=
  if chars.getLast? = some '\n' then chars.dropLast else chars

/-- The tag that the shape of a text stands for. -/
def shapeTag (text : String) : String :=
  let chars := text.toList
  let shape := withoutLineFeed chars
  let starts (letters : String) : Bool := chars.head?.any fun c => letters.toList.contains c
  if starts "yYnNtTfFoO" && Shape.isTruth shape then coreTag "bool"
  else if starts "-+0123456789." && Shape.isReal shape then coreTag "float"
  else if starts "-+0123456789" && Shape.isInteger shape then coreTag "int"
  else if starts "<" && shape == ['<', '<'] then coreTag "merge"
  else if (chars.isEmpty || starts "~nN") && Shape.isNull shape then coreTag "null"
  else if starts "0123456789" && Shape.isMoment shape then coreTag "timestamp"
  else if starts "=" && shape == ['='] then coreTag "value"
  else if starts "!&*" && shape.length == 1 then coreTag "yaml"
  else coreTag "str"

/-- The tag of a scalar whose type follows from its text; no shape has a half of a pair. -/
def resolveTag (text : CodeText) : String :=
  match text.string? with
  | some text => shapeTag text
  | none => coreTag "str"

end Yaml
end CardPress
