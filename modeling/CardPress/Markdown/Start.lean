import CardPress.Markdown.Region
import CardPress.Text.Entity

/-!
# Starts of blocks

What the content of a line can start: a fence, a thematic break, a heading, an item of a list, or
the underline of a heading.
-/

namespace CardPress
namespace Markdown

/-- The fence in front of a block of code. -/
structure Fence where
  mark : Char
  length : Nat
  /-- What stands behind the fence. -/
  info : List Char
  deriving DecidableEq, Repr

/-- The fence that a line starts: three or more backticks or tildes. -/
def Fence.ofContent? : List Char → Option Fence
  | [] => none
  | mark :: rest =>
      let marks := rest.takeWhile (· = mark)
      let info := rest.drop marks.length
      if (mark = '`' || mark = '~') && 2 ≤ marks.length && !(mark = '`' && info.contains '`') then
        some {
          mark
          length := marks.length + 1
          info }
      else
        none

/-- Whether a line closes a fenced block. -/
def Fence.isClosedBy (fence : Fence) (content : List Char) : Bool :=
  let marks := content.takeWhile (· = fence.mark)
  fence.length ≤ marks.length && (content.drop marks.length).all isSpace

/-- The mark of a thematic break: three or more stars, hyphens or underscores, with nothing but
spaces between them. -/
def breakMark? : List Char → Option Char
  | [] => none
  | mark :: rest =>
      let marks := rest.filter (!isSpace ·)
      if "*-_".toList.contains mark && marks.all (· = mark) && 2 ≤ marks.length then some mark
      else none

/-- The text of a heading without the number signs that close it. -/
def headingText (chars : List Char) : List Char :=
  let chars := dropEnd chars isSpace
  let text := dropEnd chars (· = '#')
  let closed := (text.getLast?.map isSpace).getD false
  trimWhite (if closed then text else chars)

/-- The level and the text of a heading behind one to six number signs. -/
def heading? (content : List Char) : Option (Nat × List Char) :=
  let marks := content.takeWhile (· = '#')
  let rest := content.drop marks.length
  let isSet := (rest.head?.map isSpace).getD true
  if 0 < marks.length && marks.length ≤ 6 && isSet then some (marks.length, headingText rest)
  else none

/-- The level that the underline of a heading gives. -/
def underlineLevel? : List Char → Option Nat
  | [] => none
  | mark :: rest =>
      if (mark = '=' || mark = '-') && (rest.dropWhile (· = mark)).all isSpace then
        some (if mark = '=' then 1 else 2)
      else
        none

/-- The marker in front of an item of a list. -/
structure ListMarker where
  /-- The number of an item of an ordered list. -/
  number : Option Nat
  /-- The last character of the marker. -/
  mark : Char
  /-- The number of its characters. -/
  width : Nat
  deriving DecidableEq, Repr

namespace ListMarker

/-- Whether a marker can end in front of a text. -/
def mayEnd (chars : List Char) : Bool :=
  (chars.head?.map isSpace).getD true

/-- The marker that a line starts: a bullet, or a number of at most nine digits with a full stop or
a parenthesis. -/
def ofContent? (content : List Char) : Option ListMarker :=
  let digits := content.takeWhile Char.isDigit
  match content.drop digits.length with
  | [] => none
  | mark :: rest =>
      if !mayEnd rest then none
      else if digits.isEmpty then
        if "*-+".toList.contains mark then
          some {
            number := none
            mark
            width := 1 }
        else
          none
      else if digits.length ≤ 9 && (mark = '.' || mark = ')') then
        some {
          number := some (Text.decimalNumber digits)
          mark
          width := digits.length + 1 }
      else
        none

/-- Whether an item with a marker may stand directly behind a paragraph: it is not blank, and its
list counts from one. -/
def mayInterrupt (marker : ListMarker) (content : List Char) : Bool :=
  marker.number.getD 1 = 1 && !(content.drop marker.width).all isSpace

/-- Whether two items belong to one list. -/
def continues (marker other : ListMarker) : Bool :=
  marker.number.isSome == other.number.isSome && marker.mark == other.mark

end ListMarker

end Markdown
end CardPress
