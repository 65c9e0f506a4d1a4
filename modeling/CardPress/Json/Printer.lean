import CardPress.Json.Basic

/-!
# Writing JSON

A value is written on one line, or with every entry on a line of its own.  Text is kept as it is
but for the quote, the backslash and the control characters below the space; a half of a surrogate
pair stays as well.
-/

namespace CardPress
namespace Json

/-- The lower-case hexadecimal digit of a number below sixteen. -/
def hexDigit (value : Nat) : Char :=
  Nat.digitChar (value % 16)

/-- One character as it stands inside a quoted text. -/
def escape (c : Char) : List Char :=
  if c = '"' then ['\\', '"']
  else if c = '\\' then ['\\', '\\']
  else if c = '\n' then ['\\', 'n']
  else if c = '\r' then ['\\', 'r']
  else if c = '\t' then ['\\', 't']
  else if c = '\x08' then ['\\', 'b']
  else if c = '\x0c' then ['\\', 'f']
  else if c.toNat < 32 then ['\\', 'u', '0', '0', hexDigit (c.toNat / 16), hexDigit c.toNat]
  else [c]

/-- One code point as it stands inside a quoted text. -/
def escapePoint : CodePoint → List CodePoint
  | .char c => (escape c).map .char
  | .lone half => [.lone half]

/-- A text between quotes. -/
def quoted (text : CodeText) : List CodePoint :=
  .char '"' :: text.points.flatMap escapePoint ++ [.char '"']

/-- The decimal digits of an integer, with a sign when it is negative. -/
def digits (value : Int) : List Char :=
  if value < 0 then '-' :: Nat.toDigits 10 value.natAbs else Nat.toDigits 10 value.natAbs

/-- The line break before an entry at a given depth, when entries stand on lines of their own. -/
def lineBreak (indent : Option Nat) (depth : Nat) : List CodePoint :=
  match indent with
  | none => []
  | some width => .char '\n' :: List.replicate (width * depth) (.char ' ')

/-- What stands between two entries at a given depth. -/
def comma (indent : Option Nat) (depth : Nat) : List CodePoint :=
  match indent with
  | none => [.char ',', .char ' ']
  | some _ => .char ',' :: lineBreak indent depth

mutual

/-- A value as text, where `depth` counts the lists and objects around it. -/
def render (indent : Option Nat) (depth : Nat) : Json → List CodePoint
  | null => "null".toList.map .char
  | bool true => "true".toList.map .char
  | bool false => "false".toList.map .char
  | integer value => (digits value).map .char
  | decimal literal => literal.toList.map .char
  | text value => quoted value
  | list [] => [.char '[', .char ']']
  | list (item :: items) =>
      .char '[' :: lineBreak indent (depth + 1) ++ render indent (depth + 1) item ++
        renderItems indent (depth + 1) items ++ lineBreak indent depth ++ [.char ']']
  | object [] => [.char '\x7b', .char '\x7d']
  | object ((key, value) :: fields) =>
      .char '\x7b' :: lineBreak indent (depth + 1) ++ quoted key ++ [.char ':', .char ' '] ++
        render indent (depth + 1) value ++ renderFields indent (depth + 1) fields ++
        lineBreak indent depth ++ [.char '\x7d']

/-- The further items of a list, each after a comma. -/
def renderItems (indent : Option Nat) (depth : Nat) : List Json → List CodePoint
  | [] => []
  | item :: items =>
      comma indent depth ++ render indent depth item ++ renderItems indent depth items

/-- The further fields of an object, each after a comma. -/
def renderFields (indent : Option Nat) (depth : Nat) : List (String × Json) → List CodePoint
  | [] => []
  | (key, value) :: fields =>
      comma indent depth ++ quoted key ++ [.char ':', .char ' '] ++ render indent depth value ++
        renderFields indent depth fields

end

/-- A value as text, on one line when no indentation is given. -/
def print (indent : Option Nat) (value : Json) : CodeText :=
  ⟨render indent 0 value⟩

end Json
end CardPress
