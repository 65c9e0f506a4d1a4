import CardPress.Document.Inlines
import CardPress.Document.Source

/-!
# Tables from tokens

A table is read from the tokens behind its opening one.  Each function also counts the tokens that
it has gone over, which may be more than there are when the last ones are missing.
-/

namespace CardPress

/-- The running text of an element whose opening token stands in front of the given tokens. -/
def contentOf : List BlockToken → Except ReadError (List Inline)
  | [] => .error .missing
  | inline :: _ => .ok (Inline.ofTokens inline.children)

/-- The header cells up to the end of the table head. -/
def readHead : List BlockToken → Except ReadError (List Cell × Nat)
  | [] => .error .missing
  | token :: rest =>
      if token.type = "thead_close" then .ok ([], 1)
      else if token.type = "th_open" then do
        let cell ← contentOf rest
        let (cells, count) ← readHead (rest.drop 2)
        return (cell :: cells, count + 3)
      else do
        let (cells, count) ← readHead rest
        return (cells, count + 1)
  termination_by tokens => tokens.length

/-- The cells of a row up to its end. -/
def readRow : List BlockToken → Except ReadError (List Cell × Nat)
  | [] => .error .missing
  | token :: rest =>
      if token.type = "tr_close" then .ok ([], 1)
      else if token.type = "td_open" ∨ token.type = "th_open" then do
        let cell ← contentOf rest
        let (cells, count) ← readRow (rest.drop 2)
        return (cell :: cells, count + 3)
      else do
        let (cells, count) ← readRow rest
        return (cells, count + 1)
  termination_by tokens => tokens.length

/-- The rows up to the end of the table body. -/
def readRows : List BlockToken → Except ReadError (List (List Cell) × Nat)
  | [] => .error .missing
  | token :: rest =>
      if token.type = "tbody_close" then .ok ([], 1)
      else if token.type = "tr_open" then do
        let (row, width) ← readRow rest
        let (rows, count) ← readRows (rest.drop width)
        return (row :: rows, count + width + 1)
      else do
        let (rows, count) ← readRows rest
        return (rows, count + 1)
  termination_by tokens => tokens.length

/-- The cells of a table. -/
structure TableCells where
  header : List Cell := []
  rows : List (List Cell) := []

/-- The cells of a table up to its end; heads and bodies may come in any order and number. -/
def readTable : List BlockToken → Except ReadError (TableCells × Nat)
  | [] => .ok ({}, 1)
  | token :: rest =>
      if token.type = "thead_open" then do
        let (header, width) ← readHead rest
        let (cells, count) ← readTable (rest.drop width)
        return ({ cells with header := header ++ cells.header }, count + width + 1)
      else if token.type = "tbody_open" then do
        let (rows, width) ← readRows rest
        let (cells, count) ← readTable (rest.drop width)
        return ({ cells with rows := rows ++ cells.rows }, count + width + 1)
      else if token.type = "table_close" then .ok ({}, 1)
      else do
        let (cells, count) ← readTable rest
        return (cells, count + 1)
  termination_by tokens => tokens.length

end CardPress
