import CardPress.Markdown.Tag
import CardPress.Text.Case

/-!
# Blocks of HTML

Seven kinds of lines start a block of HTML.  The kind says which line ends the block.
-/

namespace CardPress
namespace Markdown

/-- What starts a block of HTML. -/
inductive HtmlBlock where
  /-- An element whose content is not markup. -/
  | verbatim
  | comment
  | instruction
  | declaration
  | characterData
  /-- A tag of an element that stands between paragraphs. -/
  | element
  /-- A line that holds any other tag and nothing else. -/
  | tag
  deriving DecidableEq, Repr

/-- Elements whose content is not markup. -/
def verbatimNames : List String :=
  ["script", "pre", "style", "textarea"]

/-- Elements that stand between paragraphs. -/
def elementNames : List String :=
  ["address", "article", "aside", "base", "basefont", "blockquote", "body", "caption", "center",
    "col", "colgroup", "dd", "details", "dialog", "dir", "div", "dl", "dt", "fieldset",
    "figcaption", "figure", "footer", "form", "frame", "frameset", "h1", "h2", "h3", "h4", "h5",
    "h6", "head", "header", "hr", "html", "iframe", "legend", "li", "link", "main", "menu",
    "menuitem", "nav", "noframes", "ol", "optgroup", "option", "p", "param", "search", "section",
    "summary", "table", "tbody", "td", "tfoot", "th", "thead", "title", "tr", "track", "ul"]

/-- Characters of an element's name. -/
def isElementChar (c : Char) : Bool :=
  c.isDigit || (Text.asciiLetter? c).isSome

/-- The name at the start of a text, when it is one of some names in any case, and the text behind
it. -/
def elementName? (names : List String) (chars : List Char) : Option (List Char) :=
  let name := chars.takeWhile isElementChar
  if names.any fun known => known.toList = name.map Text.caselessChar then
    some (chars.drop name.length)
  else
    none

/-- Whether a blank character, the end of a tag or the end of the line comes next. -/
def endsElementName (allowsSlash : Bool) : List Char → Bool
  | [] => true
  | '/' :: '>' :: _ => allowsSlash
  | c :: _ => Text.isBlank c || c = '>'

/-- Whether a line starts a tag of one of some elements. -/
def startsElement (names : List String) (allowsSlash : Bool) (chars : List Char) : Bool :=
  ((elementName? names chars).map (endsElementName allowsSlash)).getD false

/-- Whether the tag that ends an element without markup stands somewhere in a line. -/
def endsVerbatim : List Char → Bool
  | [] => false
  | c :: rest =>
      let isEnd :=
        match c, rest with
        | '<', '/' :: name =>
            match elementName? verbatimNames name with
            | some ('>' :: _) => true
            | _ => false
        | _, _ => false
      isEnd || endsVerbatim rest

namespace HtmlBlock

/-- Whether a line starts a declaration. -/
def startsDeclaration : List Char → Bool
  | '<' :: '!' :: c :: _ => c.isAlpha
  | _ => false

/-- Whether a line starts an opening or a closing tag of an element between paragraphs. -/
def startsElementTag : List Char → Bool
  | '<' :: '/' :: rest => startsElement elementNames true rest
  | '<' :: rest => startsElement elementNames true rest
  | _ => false

/-- Whether a line holds one tag and nothing else. -/
def isTagLine (chars : List Char) : Bool :=
  match openTagLength? chars <|> closeTagLength? chars with
  | some length => (chars.drop length).all Text.isBlank
  | none => false

/-- The kind of the block that a line starts. -/
def opening? (chars : List Char) : Option HtmlBlock :=
  if chars.head? != some '<' then none
  else if startsElement verbatimNames false chars.tail then some verbatim
  else if "<!--".toList.isPrefixOf chars then some comment
  else if "<?".toList.isPrefixOf chars then some instruction
  else if startsDeclaration chars then some declaration
  else if "<![CDATA[".toList.isPrefixOf chars then some characterData
  else if startsElementTag chars then some element
  else if isTagLine chars then some tag
  else none

/-- Whether a block of a kind may stand directly behind a paragraph. -/
def interrupts (block : HtmlBlock) : Bool :=
  block != tag

/-- Whether a line ends a block of a kind. -/
def endsWith (chars : List Char) : HtmlBlock → Bool
  | verbatim => endsVerbatim chars
  | comment => Text.occursIn "-->".toList chars
  | instruction => Text.occursIn "?>".toList chars
  | declaration => chars.contains '>'
  | characterData => Text.occursIn "]]>".toList chars
  | element => chars.isEmpty
  | tag => chars.isEmpty

end HtmlBlock

end Markdown
end CardPress
