import CardPress.Markdown.Line

/-!
# Regions of lines

A region is what a container of the page may reach over: the lines as they stand behind the margins
of the quotes around it, and the column at which its own content starts.
-/

namespace CardPress
namespace Markdown

/-- The lines that a container reaches over, and where it stands in the text. -/
structure Region where
  lines : Array Line
  /-- The number of lines that a paragraph may reach. -/
  stop : Nat
  /-- The column at which the container's content starts. -/
  margin : Nat := 0
  /-- The margin around the innermost list item. -/
  listMargin : Option Nat := none
  /-- The number of containers around the content. -/
  level : Nat := 0
  /-- Whether the first line may open front matter. -/
  frontMatter : Bool := false
  deriving Repr, Inhabited

namespace Region

/-- The line at an index; behind the last one every line is blank. -/
def line (region : Region) (index : Nat) : Line :=
  region.lines[index]?.getD Line.blank

/-- Whether a line has no content. -/
def isEmpty (region : Region) (index : Nat) : Bool :=
  (region.line index).isEmpty

/-- The content of a line. -/
def content (region : Region) (index : Nat) : List Char :=
  (region.line index).content

/-- Whether a line is indented as far as code is. -/
def isCode (region : Region) (index : Nat) : Bool :=
  region.margin + 4 ≤ (region.line index).column

/-- Whether a line starts in front of the margin. -/
def isOutside (region : Region) (index : Nat) : Bool :=
  (region.line index).column < region.margin

/-- The first line from an index on that has content. -/
def skipEmpty (region : Region) (index : Nat) : Nat :=
  if index < region.stop then
    if region.isEmpty index then region.skipEmpty (index + 1) else index
  else
    index
  termination_by region.stop - index

/-- The texts of the lines from `start` to `stop`, behind `width` columns. -/
def textsFrom (region : Region) (start stop width : Nat) : List (List Char) :=
  (List.range' start (stop - start)).map fun index => (region.line index).textFrom width

/-- The lines from `start` to `stop` behind `width` columns, with line feeds between them. -/
def textBetween (region : Region) (start stop width : Nat) : List Char :=
  ['\n'].intercalate (region.textsFrom start stop width)

/-- The lines from `start` to `stop` behind `width` columns, each with its own ending. -/
def fullTextBetween (region : Region) (start stop width : Nat) : List Char :=
  (List.range' start (stop - start)).flatMap fun index =>
    (region.line index).textFrom width ++ (region.line index).ending

end Region

end Markdown
end CardPress
