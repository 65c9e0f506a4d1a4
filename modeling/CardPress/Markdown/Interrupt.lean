import CardPress.Markdown.Grid
import CardPress.Markdown.HtmlBlock
import CardPress.Markdown.Start

/-!
# Lines that end a block

Paragraphs, quotes and list items go on until a line starts a block of another kind.  Which kinds
count depends on the block that is going on.
-/

namespace CardPress
namespace Markdown
namespace Region

/-- Whether a line may start a block at all: code cannot follow without a blank line. -/
def startsWith (region : Region) (index : Nat) (starts : List Char → Bool) : Bool :=
  !region.isCode index && starts (region.content index)

/-- Whether a line starts a fenced block. -/
def startsFence (region : Region) (index : Nat) : Bool :=
  region.startsWith index fun content => (Fence.ofContent? content).isSome

/-- Whether a line starts a quote. -/
def startsQuote (region : Region) (index : Nat) : Bool :=
  region.startsWith index fun content => content.head? == some '>'

/-- Whether a line is a thematic break. -/
def startsBreak (region : Region) (index : Nat) : Bool :=
  region.startsWith index fun content => (breakMark? content).isSome

/-- Whether a line starts a block of HTML that needs no blank line in front of it. -/
def startsHtml (region : Region) (index : Nat) : Bool :=
  region.startsWith index fun content =>
    ((HtmlBlock.opening? content).map (·.interrupts)).getD false

/-- Whether a line is a heading. -/
def startsHeading (region : Region) (index : Nat) : Bool :=
  region.startsWith index fun content => (heading? content).isSome

/-- Whether a line is indented so far behind the margin of a list, without reaching the margin of
its item, that it goes on with a paragraph. -/
def isListContinuation (region : Region) (index : Nat) : Bool :=
  match region.listMargin with
  | some margin => margin + 4 ≤ (region.line index).column && region.isOutside index
  | none => false

/-- The marker of the list item that a line starts. -/
def listMarker? (region : Region) (index : Nat) : Option ListMarker :=
  if region.isCode index || region.isListContinuation index then none
  else ListMarker.ofContent? (region.content index)

/-- Whether a line starts a list. -/
def startsList (region : Region) (index : Nat) : Bool :=
  (region.listMarker? index).isSome

/-- Whether a line starts a list that may stand directly behind a paragraph.  A line in front of the
margin ends the item around the paragraph in any case. -/
def startsListBehindParagraph (region : Region) (index : Nat) : Bool :=
  match region.listMarker? index with
  | some marker => region.isOutside index || marker.mayInterrupt (region.content index)
  | none => false

/-- The cells of the first line of a table, when the second line has as many columns. -/
def tableHead? (region : Region) (index stop : Nat) : Option (List (List Char)) := do
  if stop < index + 2 || region.isOutside (index + 1) || region.isCode (index + 1) then none
  let columns ← columnCount? (region.content (index + 1))
  let content := region.content index
  let cells := rowCells content
  if !content.contains '|' || region.isCode index || cells.isEmpty || cells.length != columns then
    none
  return cells

/-- Whether a line starts a table. -/
def startsTable (region : Region) (index stop : Nat) : Bool :=
  (region.tableHead? index stop).isSome

/-- Whether a line ends the item of a list in front of it. -/
def endsItem (region : Region) (index : Nat) : Bool :=
  region.startsFence index || region.startsQuote index || region.startsBreak index

/-- Whether a line ends a quote or a table in front of it. -/
def endsQuote (region : Region) (index : Nat) : Bool :=
  region.endsItem index || region.startsList index || region.startsHtml index ||
    region.startsHeading index

/-- Whether a line ends a paragraph in front of it. -/
def endsParagraph (region : Region) (index stop : Nat) : Bool :=
  region.startsTable index stop || region.endsItem index ||
    region.startsListBehindParagraph index || region.startsHtml index || region.startsHeading index

/-- Whether a line ends a link definition in front of it. -/
def endsDefinition (region : Region) (index stop : Nat) : Bool :=
  region.startsTable index stop || region.endsQuote index

/-- Whether a line goes on with a paragraph whatever it holds: it is indented like code, or it lacks
the marker of its quote. -/
def isContinuation (region : Region) (index : Nat) : Bool :=
  region.isCode index || (region.line index).column < 0

end Region
end Markdown
end CardPress
