import CardPress.Decimal.Shortest

/-!
# Markdown tokens

A Markdown text is first cut into a flat list of block tokens, in which containers show as an
opening and a closing token.  Running text is held by block tokens as lists of inline tokens.
-/

namespace CardPress

/-- The value of an attribute of a token. -/
inductive AttributeValue where
  | text (value : String)
  | integer (value : Int)
  | real (value : Binary64)
  deriving DecidableEq, Repr, Inhabited

namespace AttributeValue

/-- An attribute's value as text. -/
def plain : AttributeValue → String
  | text value => value
  | integer value => toString value
  | real value => value.text

/-- An attribute's value as text, where zero counts as missing. -/
def plainOrEmpty : AttributeValue → String
  | text value => value
  | integer value => if value = 0 then "" else toString value
  | real value => if value.isZero then "" else value.text

end AttributeValue

/-- A token of running text. -/
structure InlineToken where
  /-- The type of the token, such as `text` or `strong_open`. -/
  type : String
  content : String := ""
  /-- The characters that mark the token up. -/
  markup : String := ""
  attributes : List (String × AttributeValue) := []
  /-- `1` for an opening token, `-1` for a closing one, `0` for all others. -/
  nesting : Int := 0
  level : Int := 0
  deriving DecidableEq, Repr, Inhabited

/-- The value of a token's attribute, when it has one. -/
def InlineToken.attribute? (token : InlineToken) (name : String) : Option AttributeValue :=
  token.attributes.lookup name

/-- What a link definition says. -/
structure DefinitionInfo where
  /-- The label as references to it are compared. -/
  id : Option String := none
  /-- The label as it was written. -/
  label : Option String := none
  url : Option String := none
  title : Option String := none
  deriving DecidableEq, Repr, Inhabited

/-- A token of the block structure. -/
structure BlockToken where
  /-- The type of the token, such as `paragraph_open` or `fence`. -/
  type : String
  /-- The name of the element that the token stands for. -/
  tag : String := ""
  /-- `1` for an opening token, `-1` for a closing one, `0` for all others. -/
  nesting : Int := 0
  /-- Number of containers around the token; an opening and its closing token share it. -/
  level : Int := 0
  /-- The lines that the token covers: the first one, and the first one after it. -/
  span : Option (Int × Int) := none
  content : String := ""
  markup : String := ""
  /-- What follows the opening fence of a code block. -/
  info : String := ""
  definition : DefinitionInfo := {}
  /-- The running text of an inline token. -/
  children : List InlineToken := []
  deriving DecidableEq, Repr, Inhabited

end CardPress
