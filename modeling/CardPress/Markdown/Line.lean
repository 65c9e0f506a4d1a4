import CardPress.Text.Lines

/-!
# Lines of Markdown

A line knows where its content starts.  The margin of a container moves over the line: what lies in
front of it is cut off, and columns are counted from it, with tabs that still stop where they
stopped in the whole line.
-/

namespace CardPress
namespace Markdown

/-- Spaces and tabs. -/
def isSpace (c : Char) : Bool :=
  c = ' ' || c = '\t'

/-- White space: the separators, and the controls from the tab to the carriage return. -/
def isWhite (c : Char) : Bool :=
  let code := c.toNat
  (9 ≤ code && code ≤ 13) || code == 0x20 || code == 0xA0 || code == 0x1680 ||
    (0x2000 ≤ code && code ≤ 0x200A) || code == 0x2028 || code == 0x2029 || code == 0x202F ||
    code == 0x205F || code == 0x3000

/-- A text without the characters of a class at its end. -/
def dropEnd (chars : List Char) (drops : Char → Bool) : List Char :=
  (chars.reverse.dropWhile drops).reverse

/-- A text without white space at its ends. -/
def trimWhite (chars : List Char) : List Char :=
  dropEnd (chars.dropWhile isWhite) isWhite

/-- The column behind a space or a tab, where `offset` columns lie in front of the first one; a tab
goes to the next multiple of four. -/
def columnBehind (offset column : Nat) (c : Char) : Nat :=
  if c = '\t' then column + (4 - (column + offset) % 4) else column + 1

/-- The spaces and tabs at the start of a text that starts at a column: their number, and the column
behind them. -/
def measureSpaces (offset column : Nat) : List Char → Nat × Nat
  | [] => (0, column)
  | c :: rest =>
      if isSpace c then
        let (count, column) := measureSpaces offset (columnBehind offset column c) rest
        (count + 1, column)
      else
        (0, column)

/-- A line behind the margin of a quote. -/
structure Line where
  /-- The characters behind the margin, without the line feed at the end. -/
  chars : List Char
  /-- The number of characters in front of the content: spaces, tabs and markers of list items. -/
  indent : Nat
  /-- The column of the content.  It is negative when the line lacks the marker of the quote that
  it belongs to, because it goes on with a paragraph. -/
  column : Int
  /-- The number of columns in front of the margin. -/
  offset : Nat
  /-- Whether the text ends with the line, without a line feed. -/
  isLast : Bool
  deriving DecidableEq, Repr, Inhabited

namespace Line

/-- A line of a text. -/
def ofChars (chars : List Char) (isLast : Bool) : Line :=
  let (indent, column) := measureSpaces 0 0 chars
  { chars
    indent
    column := (column : Int)
    offset := 0
    isLast }

/-- A line without characters. -/
def blank : Line :=
  ofChars [] true

/-- The characters behind the indentation. -/
def content (line : Line) : List Char :=
  line.chars.drop line.indent

/-- Whether a line has no content. -/
def isEmpty (line : Line) : Bool :=
  line.content.isEmpty

/-- Cut `width` columns off the front of a text of which `indent` characters are indentation; the
columns that a tab reaches beyond the cut are filled with spaces. -/
def cutColumns (offset width : Nat) : Nat → Nat → List Char → List Char
  | _, column, [] => List.replicate (column - width) ' '
  | indent, column, c :: rest =>
      if width ≤ column then List.replicate (column - width) ' ' ++ c :: rest
      else if isSpace c then
        cutColumns offset width (indent - 1) (columnBehind offset column c) rest
      else if 0 < indent then cutColumns offset width (indent - 1) (column + 1) rest
      else c :: rest

/-- The text of a line behind `width` columns. -/
def textFrom (line : Line) (width : Nat) : List Char :=
  cutColumns line.offset width line.indent 0 line.chars

/-- What ends the line in the text. -/
def ending (line : Line) : List Char :=
  if line.isLast then [] else ['\n']

/-- A line whose content stands behind the marker of a quote, with the margin behind that marker;
one space behind the marker belongs to it. -/
def behindQuoteMarker? (line : Line) : Option Line :=
  match line.content with
  | '>' :: rest =>
      let column := line.column.toNat + 1
      let (chars, start, tabShift, width) :=
        match rest with
        | ' ' :: chars => (chars, column + 1, 0, 2)
        | '\t' :: chars =>
            if (line.offset + column) % 4 = 3 then (chars, column + 1, 0, 2)
            else (rest, column, 1, 2)
        | _ => (rest, column, 0, 1)
      let (indent, stop) := measureSpaces (line.offset + tabShift) start chars
      some {
        chars
        indent
        column := (stop : Int) - start
        offset := line.column.toNat + width
        isLast := line.isLast }
  | _ => none

/-- A line that goes on with a paragraph without the marker of its quote. -/
def lazy (line : Line) : Line :=
  { line with column := -1 }

/-- The lines of a text; what follows the last line feed counts only when it has content. -/
def ofPieces : List (List Char) → List Line
  | [] => []
  | [piece] => if piece.all isSpace then [] else [ofChars piece true]
  | piece :: pieces => ofChars piece false :: ofPieces pieces

/-- The lines of a text. -/
def ofText (text : List Char) : List Line :=
  ofPieces (List.splitOn '\n' text)

end Line

end Markdown
end CardPress
