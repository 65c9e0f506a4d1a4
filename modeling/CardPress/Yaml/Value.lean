import CardPress.Decimal.Shortest
import CardPress.Yaml.Moment

/-!
# YAML values

The values that a YAML text denotes, and the two ways to write one: the form that reports show,
where texts are quoted and collections are bracketed, and the plain form of scalars.
-/

namespace CardPress
namespace Yaml

/-- A value that a YAML text denotes; mappings keep the order in which their keys came. -/
inductive Value where
  | null
  | bool (value : Bool)
  | integer (value : Int)
  | real (value : Binary64)
  | text (value : CodeText)
  | binary (bytes : List Nat)
  | day (value : Day)
  | moment (value : Moment)
  | list (items : List Value)
  | mapping (entries : List (Value × Value))
  /-- A list of pairs, of an ordered mapping that may repeat its keys. -/
  | pairs (entries : List (Value × Value))
  /-- A set, in the order in which its items are shown. -/
  | set (items : List Value)
  /-- A reference from inside a collection to the collection itself. -/
  | cycle (mapping : Bool)
  deriving Repr, Inhabited

namespace Value

/-- Whether two keys of a mapping count as the same; numbers and truth values do by their value, and
what is no number is one key. -/
def sameKey : Value → Value → Bool
  | null, null => true
  | bool first, bool second => first == second
  | bool first, integer second => (if first then 1 else 0) == second
  | integer first, bool second => first == (if second then 1 else 0)
  | integer first, integer second => first == second
  | bool first, real second => second.sameInt (if first then 1 else 0)
  | real first, bool second => first.sameInt (if second then 1 else 0)
  | integer first, real second => second.sameInt first
  | real first, integer second => first.sameInt second
  | real .nan, real .nan => true
  | real first, real second => first.same second
  | text first, text second => first == second
  | binary first, binary second => first == second
  | day first, day second => first == second
  | moment first, moment second => first.same second
  | _, _ => false

/-- Put an entry into a mapping; a key that is there keeps its place and takes the new value. -/
def insert {α : Type} (key : Value) (value : α) : List (Value × α) → List (Value × α)
  | [] => [(key, value)]
  | (oldKey, oldValue) :: entries =>
      if oldKey.sameKey key then (oldKey, value) :: entries
      else (oldKey, oldValue) :: insert key value entries

/-- The mapping that a list of entries stands for, later ones winning. -/
def ofEntries {α : Type} (entries : List (Value × α)) : List (Value × α) :=
  entries.foldl (fun mapping entry => insert entry.1 entry.2 mapping) []

/-- Whether an integer has more decimal digits than are converted to text. -/
def isTooLong (value : Int) : Bool :=
  Nat.pow 10 digitLimit ≤ value.natAbs

/-- One byte as it stands between the quotes `quote`. -/
def displayByte (quote : Char) (byte : Nat) : List Char :=
  let c := Char.ofNat byte
  if c = quote ∨ c = '\\' then ['\\', c]
  else if c = '\n' then ['\\', 'n']
  else if c = '\r' then ['\\', 'r']
  else if c = '\t' then ['\\', 't']
  else if 32 ≤ byte ∧ byte < 127 then [c]
  else '\\' :: 'x' :: Text.hex 2 byte

/-- Bytes between quotes. -/
def displayBytes (bytes : List Nat) : String :=
  let quote := Text.quoteFor (bytes.map Char.ofNat)
  String.ofList ('b' :: quote :: bytes.flatMap (displayByte quote) ++ [quote])

/-- A moment as a report shows it: its fields, without seconds and their fractions when zero. -/
def displayMoment (moment : Moment) : String :=
  let fields :=
    [moment.date.year, moment.date.month, moment.date.day, moment.hour, moment.minute] ++
      (if moment.microsecond = 0 then (if moment.second = 0 then [] else [moment.second])
      else [moment.second, moment.microsecond])
  let zone :=
    match moment.offset with
    | none => ""
    | some 0 => ", tzinfo=datetime.timezone.utc"
    | some seconds => ", tzinfo=datetime.timezone(" ++ spanText seconds ++ ")"
  "datetime.datetime(" ++ ", ".intercalate (fields.map toString) ++ zone ++ ")"

mutual

/-- The form of a value that reports show. -/
def display : Value → String
  | null => "None"
  | bool true => "True"
  | bool false => "False"
  | integer value => toString value
  | real value => value.text
  | text value => value.quoted
  | binary bytes => displayBytes bytes
  | day date =>
      "datetime.date(" ++ toString date.year ++ ", " ++ toString date.month ++ ", " ++
        toString date.day ++ ")"
  | moment value => displayMoment value
  | list items => "[" ++ ", ".intercalate (displayItems items) ++ "]"
  | mapping entries => "\x7b" ++ ", ".intercalate (displayEntries entries) ++ "\x7d"
  | pairs entries => "[" ++ ", ".intercalate (displayPairs entries) ++ "]"
  | set items =>
      if items.isEmpty then "set()" else "\x7b" ++ ", ".intercalate (displayItems items) ++ "\x7d"
  | cycle true => "\x7b...\x7d"
  | cycle false => "[...]"

/-- The items of a collection as reports show them. -/
def displayItems : List Value → List String
  | [] => []
  | item :: items => item.display :: displayItems items

/-- The entries of a mapping as reports show them. -/
def displayEntries : List (Value × Value) → List String
  | [] => []
  | (key, value) :: entries => (key.display ++ ": " ++ value.display) :: displayEntries entries

/-- Pairs as reports show them. -/
def displayPairs : List (Value × Value) → List String
  | [] => []
  | (key, value) :: entries =>
      ("(" ++ key.display ++ ", " ++ value.display ++ ")") :: displayPairs entries

end

mutual

/-- Whether writing a value would have to write an integer that is too long. -/
def hasLongInteger : Value → Bool
  | integer value => isTooLong value
  | list items => anyLong items
  | mapping entries => anyLongEntry entries
  | pairs entries => anyLongEntry entries
  | set items => anyLong items
  | _ => false

/-- Whether an item of a list has an integer that is too long. -/
def anyLong : List Value → Bool
  | [] => false
  | item :: items => item.hasLongInteger || anyLong items

/-- Whether an entry has an integer that is too long. -/
def anyLongEntry : List (Value × Value) → Bool
  | [] => false
  | (key, value) :: entries => key.hasLongInteger || value.hasLongInteger || anyLongEntry entries

end

/-- The plain form of a value: texts, days and moments without quotes or names. -/
def plain : Value → CodeText
  | text value => value
  | day date => date.text
  | moment value => value.text
  | value => value.display

/-- Whether a value counts as nothing: null, false, zeros, and empty texts and collections. -/
def isVoid : Value → Bool
  | null => true
  | bool value => !value
  | integer value => value == 0
  | real value => value.isZero
  | text value => value.isEmpty
  | binary bytes => bytes.isEmpty
  | list items => items.isEmpty
  | mapping entries => entries.isEmpty
  | pairs entries => entries.isEmpty
  | set items => items.isEmpty
  | day _ => false
  | moment _ => false
  | cycle _ => false

end Value
end Yaml
end CardPress
