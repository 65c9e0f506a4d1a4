import CardPress.Markdown.Line

/-!
# Rows of tables

Lines of a table are cut into cells at their bars.  The second line tells the number of columns.
-/

namespace CardPress
namespace Markdown

/-- Put a character in front of the first of some texts. -/
def consFirst (c : Char) : List (List Char) → List (List Char)
  | [] => [[c]]
  | first :: rest => (c :: first) :: rest

/-- Cut a line at its bars; a bar behind a backslash belongs to its cell. -/
def splitAtBars : List Char → List (List Char)
  | [] => [[]]
  | '\\' :: '|' :: rest => consFirst '|' (splitAtBars rest)
  | c :: rest => if c = '|' then [] :: splitAtBars rest else consFirst c (splitAtBars rest)

/-- The cells of a line; bars at its ends enclose no cells. -/
def rowCells (content : List Char) : List (List Char) :=
  let cells := splitAtBars (trimWhite content)
  let cells := if cells.head? = some [] then cells.tail else cells
  if cells.getLast? = some [] then cells.dropLast else cells

/-- Whether a cell of the second line is a run of hyphens, with colons at its ends allowed. -/
def isColumnRule (cell : List Char) : Bool :=
  let cell := if cell.head? = some ':' then cell.tail else cell
  let cell := if cell.getLast? = some ':' then cell.dropLast else cell
  !cell.isEmpty && cell.all (· = '-')

/-- Characters of the second line. -/
def isGridChar (c : Char) : Bool :=
  c = '|' || c = '-' || c = ':' || c = ' ' || c = '\t'

/-- The number of columns that the second line of a table tells.  A hyphen and a space at its start
would be an item of a list. -/
def columnCount? (content : List Char) : Option Nat :=
  let isGrid :=
    match content with
    | first :: second :: _ =>
        content.all isGridChar && first != ' ' && first != '\t' &&
          !(first = '-' && (second = ' ' || second = '\t'))
    | _ => false
  if !isGrid then none
  else
    let columns := (List.splitOn '|' content).map trimWhite
    let inner := columns.tail.dropLast
    let rules := columns.filter (!·.isEmpty)
    if inner.all (!·.isEmpty) && rules.all isColumnRule then some rules.length else none

/-- The cells of a row, brought to a number of columns. -/
def fitCells (columns : Nat) (cells : List (List Char)) : List (List Char) :=
  cells.take columns ++ List.replicate (columns - cells.length) []

end Markdown
end CardPress
