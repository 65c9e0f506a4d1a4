import CardPress.Text.CodeText

/-!
# JSON values

Objects are lists of pairs, because the order of their keys is part of what is written.  A number
is an integer, or a decimal that keeps the text it was written with.
-/

namespace CardPress

/-- A JSON value. -/
inductive Json where
  | null
  | bool (value : Bool)
  | integer (value : Int)
  /-- A number with a fraction or an exponent, as it was written. -/
  | decimal (literal : String)
  | text (value : CodeText)
  | list (items : List Json)
  | object (fields : List (String × Json))
  deriving Repr, Inhabited

namespace Json

/-- The value of the first field with a given key. -/
def field? (key : String) : Json → Option Json
  | object fields => fields.lookup key
  | _ => none

/-- An object of the fields that are set, in order. -/
def ofFields (fields : List (String × Option Json)) : Json :=
  object (fields.filterMap fun (key, value) => value.map fun value => (key, value))

end Json
end CardPress
