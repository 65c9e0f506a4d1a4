import CardPress.Text.Blank
import CardPress.Text.Search

/-!
# Markup in running text

What counts as a piece of HTML: an opening tag, a closing tag, a comment, a processing instruction,
a declaration, or a section of character data.  All functions give the length of the piece that
stands at the start of a text.
-/

namespace CardPress
namespace Markdown

/-- Where the reading of an opening tag stands. -/
inductive TagState where
  | name
  /-- Behind blank characters that may precede an attribute. -/
  | blank
  | label
  /-- Behind an attribute's name and blank characters. -/
  | labelBlank
  /-- Behind an equals sign and blank characters. -/
  | equals
  | bare
  | quoted (quote : Char)
  /-- Behind a quoted value. -/
  | closed
  /-- Behind the slash that closes an empty element. -/
  | slash
  deriving DecidableEq, Repr

/-- Characters of a tag's name, after its first letter. -/
def isTagNameChar (c : Char) : Bool :=
  c.isAlphanum || c = '-'

/-- Characters that start the name of an attribute. -/
def startsAttribute (c : Char) : Bool :=
  c.isAlpha || c = '_' || c = ':'

/-- Characters of an attribute's name. -/
def isAttributeChar (c : Char) : Bool :=
  startsAttribute c || c.isDigit || c = '.' || c = '-'

/-- Characters of a value without quotes. -/
def isBareChar (c : Char) : Bool :=
  0x20 < c.toNat && !"\"'=<>`".toList.contains c

namespace TagState

/-- The state behind a slash, and the one behind a blank character. -/
def gap (behind : TagState) (c : Char) : List TagState :=
  (if Text.isBlank c then [behind] else []) ++ (if c = '/' then [slash] else [])

/-- The states behind one more character.  There may be two of them, since a value without quotes
may hold blank characters outside ASCII. -/
def next (c : Char) : TagState → List TagState
  | name => (if isTagNameChar c then [name] else []) ++ gap blank c
  | blank => (if startsAttribute c then [label] else []) ++ gap blank c
  | label =>
      (if isAttributeChar c then [label] else []) ++ (if c = '=' then [equals] else []) ++
        gap labelBlank c
  | labelBlank =>
      (if startsAttribute c then [label] else []) ++ (if c = '=' then [equals] else []) ++
        gap labelBlank c
  | equals =>
      (if Text.isBlank c then [equals] else []) ++
        (if c = '"' || c = '\'' then [quoted c] else []) ++ (if isBareChar c then [bare] else [])
  | bare => (if isBareChar c then [bare] else []) ++ gap blank c
  | quoted quote => if c = quote then [closed] else [quoted quote]
  | closed => gap blank c
  | slash => []

/-- Whether a tag may end in a state. -/
def mayEnd : TagState → Bool
  | equals => false
  | quoted _ => false
  | _ => true

end TagState

/-- The length of an opening tag from a place on at which its reading is in one of some states. -/
def openTagLengthFrom? (states : List TagState) : List Char → Option Nat
  | [] => none
  | c :: rest =>
      if c = '>' && states.any TagState.mayEnd then some 1
      else
        match (states.flatMap (TagState.next c)).eraseDups with
        | [] => none
        | states => (openTagLengthFrom? states rest).map (· + 1)

/-- The length of an opening tag. -/
def openTagLength? : List Char → Option Nat
  | '<' :: c :: rest =>
      if c.isAlpha then (openTagLengthFrom? [.name] rest).map (· + 2) else none
  | _ => none

/-- The length of a closing tag. -/
def closeTagLength? : List Char → Option Nat
  | '<' :: '/' :: c :: rest =>
      if c.isAlpha then
        let name := rest.takeWhile isTagNameChar
        let blanks := (rest.drop name.length).takeWhile Text.isBlank
        match rest.drop (name.length + blanks.length) with
        | '>' :: _ => some (name.length + blanks.length + 4)
        | _ => none
      else
        none
  | _ => none

/-- The length of a comment's text through its end.  Two hyphens take the character behind them
along, so that `--->` does not end a comment. -/
def commentEndLength? : List Char → Option Nat
  | '-' :: '-' :: c :: rest => if c = '>' then some 3 else (commentEndLength? rest).map (· + 3)
  | '-' :: c :: rest => if c = '-' then none else (commentEndLength? rest).map (· + 2)
  | c :: rest => if c = '-' then none else (commentEndLength? rest).map (· + 1)
  | [] => none

/-- The length of a comment. -/
def commentLength? (chars : List Char) : Option Nat :=
  if "<!-->".toList.isPrefixOf chars then some 5
  else if "<!--->".toList.isPrefixOf chars then some 6
  else if "<!--".toList.isPrefixOf chars then (commentEndLength? (chars.drop 4)).map (· + 4)
  else none

/-- The length of a piece between two texts. -/
def enclosedLength? (opener closer : String) (chars : List Char) : Option Nat :=
  if opener.toList.isPrefixOf chars then
    (Text.lengthThrough? closer.toList (chars.drop opener.length)).map (· + opener.length)
  else
    none

/-- The length of a declaration. -/
def declarationLength? (chars : List Char) : Option Nat :=
  match chars with
  | '<' :: '!' :: c :: _ => if c.isAlpha then enclosedLength? "<!" ">" chars else none
  | _ => none

/-- The length of a piece of HTML. -/
def markupLength? (chars : List Char) : Option Nat :=
  openTagLength? chars <|> closeTagLength? chars <|> commentLength? chars <|>
    enclosedLength? "<?" "?>" chars <|> declarationLength? chars <|>
    enclosedLength? "<![CDATA[" "]]>" chars

end Markdown
end CardPress
