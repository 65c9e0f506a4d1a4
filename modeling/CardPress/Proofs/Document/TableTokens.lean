import CardPress.Document.Tables

/-!
# Tokens of a table

A table is flattened into the tokens of its head and of its body, row after row and cell after cell.
Reading the tokens gives every cell back in its place, and the count leads behind the closing token,
whatever follows it.
-/

namespace CardPress

/-- Tokens between an opening and a closing one. -/
def enclose (opening : BlockToken) (content : List BlockToken) (closing : BlockToken) :
    List BlockToken :=
  opening :: content ++ [closing]

section enclose

variable (opening : BlockToken) (content : List BlockToken) (closing : BlockToken)
  (rest : List BlockToken)

theorem enclose_append :
    enclose opening content closing ++ rest = opening :: (content ++ closing :: rest) := by
  simp [enclose]

@[simp]
theorem length_enclose : (enclose opening content closing).length = content.length + 2 := by
  simp [enclose]

/-- Behind some tokens and the one that closes them stands the rest. -/
theorem drop_closing : (content ++ closing :: rest).drop (content.length + 1) = rest := by
  rw [← List.drop_drop, List.drop_left, List.drop_one, List.tail_cons]

end enclose

/-- The tokens of one table cell. -/
structure CellTokens where
  opening : BlockToken
  inline : BlockToken
  closing : BlockToken

namespace CellTokens

/-- The tokens of a cell, flattened. -/
def tokens (cell : CellTokens) : List BlockToken :=
  [cell.opening, cell.inline, cell.closing]

/-- The running text of a cell. -/
def content (cell : CellTokens) : Cell :=
  Inline.ofTokens cell.inline.children

end CellTokens

/-- The tokens of one table row. -/
structure RowTokens where
  opening : BlockToken
  cells : List CellTokens
  closing : BlockToken

namespace RowTokens

/-- The tokens of a row, flattened. -/
def tokens (row : RowTokens) : List BlockToken :=
  enclose row.opening (row.cells.flatMap CellTokens.tokens) row.closing

/-- The cells of a row. -/
def content (row : RowTokens) : List Cell :=
  row.cells.map CellTokens.content

/-- A row between its own tokens, whose cells open with one type of token. -/
structure WellFormed (cellType : String) (row : RowTokens) : Prop where
  opens : row.opening.type = "tr_open"
  cells : ∀ cell ∈ row.cells, cell.opening.type = cellType
  closes : row.closing.type = "tr_close"

end RowTokens

/-- The tokens of a table head or of a table body. -/
structure SectionTokens where
  opening : BlockToken
  rows : List RowTokens
  closing : BlockToken

namespace SectionTokens

/-- The tokens of a section, flattened. -/
def tokens (part : SectionTokens) : List BlockToken :=
  enclose part.opening (part.rows.flatMap RowTokens.tokens) part.closing

/-- A table head: rows of header cells. -/
structure IsHead (part : SectionTokens) : Prop where
  opens : part.opening.type = "thead_open"
  rows : ∀ row ∈ part.rows, row.WellFormed "th_open"
  closes : part.closing.type = "thead_close"

/-- A table body: rows of data cells. -/
structure IsBody (part : SectionTokens) : Prop where
  opens : part.opening.type = "tbody_open"
  rows : ∀ row ∈ part.rows, row.WellFormed "td_open"
  closes : part.closing.type = "tbody_close"

end SectionTokens

/-- The tokens of a table; a table without data rows has no body. -/
structure TableTokens where
  opening : BlockToken
  head : SectionTokens
  body : Option SectionTokens
  closing : BlockToken

namespace TableTokens

/-- The tokens of the head and the body, flattened. -/
def inner (table : TableTokens) : List BlockToken :=
  table.head.tokens ++ table.body.toList.flatMap SectionTokens.tokens

/-- The tokens of a table, flattened. -/
def tokens (table : TableTokens) : List BlockToken :=
  enclose table.opening table.inner table.closing

/-- The cells of the table head. -/
def header (table : TableTokens) : List Cell :=
  table.head.rows.flatMap RowTokens.content

/-- The cells of the table body, row by row. -/
def rows (table : TableTokens) : List (List Cell) :=
  table.body.toList.flatMap fun part => part.rows.map RowTokens.content

/-- A table between its own tokens, with a head and perhaps a body. -/
structure WellFormed (table : TableTokens) : Prop where
  opens : table.opening.type = "table_open"
  head : table.head.IsHead
  body : ∀ part ∈ table.body, part.IsBody
  closes : table.closing.type = "table_close"

end TableTokens

/-! ## Reading the head -/

/-- Header cells are read one by one, in front of whatever the head goes on with. -/
theorem readHead_cells {cells : List CellTokens} {rest : List BlockToken} {found : List Cell}
    {count : Nat} (types : ∀ cell ∈ cells, cell.opening.type = "th_open")
    (later : readHead rest = .ok (found, count)) :
    readHead (cells.flatMap CellTokens.tokens ++ rest) =
      .ok (cells.map CellTokens.content ++ found,
        count + (cells.flatMap CellTokens.tokens).length) := by
  induction cells with
  | nil => simpa using later
  | cons cell cells induction =>
      obtain ⟨type, types⟩ := List.forall_mem_cons.mp types
      rw [List.flatMap_cons, List.append_assoc, CellTokens.tokens]
      simp only [List.cons_append, List.nil_append]
      rw [readHead, if_neg (by rw [type]; decide), if_pos type]
      simp only [contentOf, List.drop_succ_cons, List.drop_zero, induction types]
      simp [CellTokens.content, bind, Except.bind, pure, Except.pure, Nat.add_assoc]

/-- A row of the head adds its cells. -/
theorem readHead_row {row : RowTokens} {rest : List BlockToken} {found : List Cell} {count : Nat}
    (formed : row.WellFormed "th_open") (later : readHead rest = .ok (found, count)) :
    readHead (row.tokens ++ rest) = .ok (row.content ++ found, count + row.tokens.length) := by
  have closed : readHead (row.closing :: rest) = .ok (found, count + 1) := by
    rw [readHead, if_neg (by rw [formed.closes]; decide), if_neg (by rw [formed.closes]; decide),
      later]
    rfl
  rw [RowTokens.tokens, enclose_append, length_enclose, readHead,
    if_neg (by rw [formed.opens]; decide), if_neg (by rw [formed.opens]; decide),
    readHead_cells formed.cells closed]
  change Except.ok (row.content ++ found, _) = _
  congr 2
  omega

/-- The rows of a head are read up to the end of the head. -/
theorem readHead_rows {rows : List RowTokens} {closing : BlockToken} (rest : List BlockToken)
    (formed : ∀ row ∈ rows, row.WellFormed "th_open") (closes : closing.type = "thead_close") :
    readHead (rows.flatMap RowTokens.tokens ++ closing :: rest) =
      .ok (rows.flatMap RowTokens.content, (rows.flatMap RowTokens.tokens).length + 1) := by
  induction rows with
  | nil =>
      rw [List.flatMap_nil, List.nil_append, readHead, if_pos closes]
      rfl
  | cons row rows induction =>
      obtain ⟨first, formed⟩ := List.forall_mem_cons.mp formed
      rw [List.flatMap_cons, List.flatMap_cons, List.append_assoc,
        readHead_row first (induction formed), List.length_append]
      congr 2
      omega

/-! ## Reading the body -/

/-- The cells of a data row are read up to the end of the row. -/
theorem readRow_cells {cells : List CellTokens} {closing : BlockToken} (rest : List BlockToken)
    (types : ∀ cell ∈ cells, cell.opening.type = "td_open") (closes : closing.type = "tr_close") :
    readRow (cells.flatMap CellTokens.tokens ++ closing :: rest) =
      .ok (cells.map CellTokens.content, (cells.flatMap CellTokens.tokens).length + 1) := by
  induction cells with
  | nil =>
      rw [List.flatMap_nil, List.nil_append, readRow, if_pos closes]
      rfl
  | cons cell cells induction =>
      obtain ⟨type, types⟩ := List.forall_mem_cons.mp types
      rw [List.flatMap_cons, List.append_assoc, CellTokens.tokens]
      simp only [List.cons_append, List.nil_append]
      rw [readRow, if_neg (by rw [type]; decide), if_pos (.inl type)]
      simp only [contentOf, List.drop_succ_cons, List.drop_zero, induction types]
      simp [CellTokens.content, bind, Except.bind, pure, Except.pure, Nat.add_assoc]

/-- A row of the body is one row of cells. -/
theorem readRows_row {row : RowTokens} {rest : List BlockToken} {found : List (List Cell)}
    {count : Nat} (formed : row.WellFormed "td_open")
    (later : readRows rest = .ok (found, count)) :
    readRows (row.tokens ++ rest) = .ok (row.content :: found, count + row.tokens.length) := by
  have cells := readRow_cells rest formed.cells formed.closes
  rw [RowTokens.tokens, enclose_append, length_enclose, readRows,
    if_neg (by rw [formed.opens]; decide), if_pos formed.opens, cells]
  simp only [bind, Except.bind, drop_closing, later]
  rfl

/-- The rows of a body are read up to the end of the body. -/
theorem readRows_rows {rows : List RowTokens} {closing : BlockToken} (rest : List BlockToken)
    (formed : ∀ row ∈ rows, row.WellFormed "td_open") (closes : closing.type = "tbody_close") :
    readRows (rows.flatMap RowTokens.tokens ++ closing :: rest) =
      .ok (rows.map RowTokens.content, (rows.flatMap RowTokens.tokens).length + 1) := by
  induction rows with
  | nil =>
      rw [List.flatMap_nil, List.nil_append, readRows, if_pos closes]
      rfl
  | cons row rows induction =>
      obtain ⟨first, formed⟩ := List.forall_mem_cons.mp formed
      rw [List.flatMap_cons, List.map_cons, List.append_assoc,
        readRows_row first (induction formed), List.length_append]
      congr 2
      omega

/-! ## Reading the table -/

/-- A head adds its cells to the header of the table. -/
theorem readTable_head {part : SectionTokens} {rest : List BlockToken} {cells : TableCells}
    {count : Nat} (formed : part.IsHead) (later : readTable rest = .ok (cells, count)) :
    readTable (part.tokens ++ rest) =
      .ok ({ cells with header := part.rows.flatMap RowTokens.content ++ cells.header },
        count + part.tokens.length) := by
  have head := readHead_rows rest formed.rows formed.closes
  rw [SectionTokens.tokens, enclose_append, length_enclose, readTable, if_pos formed.opens,
    head]
  simp only [bind, Except.bind, drop_closing, later]
  rfl

/-- A body adds its rows to the rows of the table. -/
theorem readTable_body {part : SectionTokens} {rest : List BlockToken} {cells : TableCells}
    {count : Nat} (formed : part.IsBody) (later : readTable rest = .ok (cells, count)) :
    readTable (part.tokens ++ rest) =
      .ok ({ cells with rows := part.rows.map RowTokens.content ++ cells.rows },
        count + part.tokens.length) := by
  have body := readRows_rows rest formed.rows formed.closes
  rw [SectionTokens.tokens, enclose_append, length_enclose, readTable,
    if_neg (by rw [formed.opens]; decide), if_pos formed.opens, body]
  simp only [bind, Except.bind, drop_closing, later]
  rfl

/-- A table gives all its cells back in their places, and the place behind its closing token. -/
theorem readTable_inner {table : TableTokens} (formed : table.WellFormed)
    (rest : List BlockToken) :
    readTable (table.inner ++ table.closing :: rest) =
      .ok ({ header := table.header, rows := table.rows }, table.inner.length + 1) := by
  have closed : readTable (table.closing :: rest) = .ok ({}, 1) := by
    rw [readTable, if_neg (by rw [formed.closes]; decide), if_neg (by rw [formed.closes]; decide),
      if_pos formed.closes]
  obtain ⟨opening, head, body, closing⟩ := table
  rw [TableTokens.inner, List.append_assoc]
  cases body with
  | none =>
      have found := readTable_head formed.head closed
      simp only [Option.toList_none, List.flatMap_nil, List.nil_append]
      rw [found]
      simp [TableTokens.header, TableTokens.rows, Nat.add_comm]
  | some part =>
      have found := readTable_head formed.head (readTable_body (formed.body part rfl) closed)
      simp only [Option.toList_some, List.flatMap_cons, List.flatMap_nil, List.append_nil]
      rw [found]
      simp [TableTokens.header, TableTokens.rows]
      omega

end CardPress
