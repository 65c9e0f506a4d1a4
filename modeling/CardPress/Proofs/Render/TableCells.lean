import CardPress.Proofs.Document.TableTokens
import CardPress.Proofs.Render.FailFast
import CardPress.Proofs.Render.Layout
import Mathlib.Data.List.Forall2

/-!
# Table cells from tokens to a card

The cells of a table are given by the inline tokens in them, the header apart from the rows below
it.  However the table is written around them and whatever stands before and behind it, reading
gives every cell back in its place, and a card shows the runs of each cell in the same place.
-/

namespace CardPress

/-! ## Tables that hold given cells -/

/-- The inline tokens in each cell of a row. -/
def RowTokens.texts (row : RowTokens) : List (List InlineToken) :=
  row.cells.map fun cell => cell.inline.children

theorem RowTokens.content_eq (row : RowTokens) : row.content = row.texts.map Inline.ofTokens := by
  rw [content, texts, List.map_map]
  rfl

/-- The tokens of a table with one header row and with the given cells: in its head, and row by row
in its body, which may be missing when there are no rows. -/
structure TableTokens.Holds (header : List (List InlineToken))
    (rows : List (List (List InlineToken))) (table : TableTokens) : Prop
    extends table.WellFormed where
  headRow : table.head.rows.map RowTokens.texts = [header]
  bodyRows : (table.body.toList.flatMap SectionTokens.rows).map RowTokens.texts = rows

section holds

variable {header : List (List InlineToken)} {rows : List (List (List InlineToken))}
  {table : TableTokens}

theorem TableTokens.Holds.header_eq (holds : table.Holds header rows) :
    table.header = header.map Inline.ofTokens := by
  obtain ⟨row, alone, rfl⟩ := List.map_eq_singleton_iff.mp holds.headRow
  rw [TableTokens.header, alone, List.flatMap_singleton, RowTokens.content_eq]

theorem TableTokens.Holds.rows_eq (holds : table.Holds header rows) :
    table.rows = rows.map (List.map Inline.ofTokens) := by
  rw [← holds.bodyRows, List.map_map, TableTokens.rows, ← List.map_flatMap]
  exact List.map_congr_left fun row _ => row.content_eq

/-- A table in a stream is read from the tokens behind its opening one, up to its closing one. -/
theorem TableTokens.WellFormed.readTable_stream (formed : table.WellFormed)
    (before after : List BlockToken) :
    ∃ width,
      readTable ((before ++ table.tokens ++ after).drop (before.length + 1)) =
          .ok ({ header := table.header, rows := table.rows }, width) ∧
        before.length + 1 + width = (before ++ table.tokens).length := by
  have behind : (before ++ table.tokens ++ after).drop (before.length + 1) =
      table.inner ++ table.closing :: after := by
    rw [List.append_assoc, ← List.drop_drop, List.drop_left, TableTokens.tokens, enclose_append]
    rfl
  refine ⟨table.inner.length + 1, by rw [behind, readTable_inner formed], ?_⟩
  rw [List.length_append, TableTokens.tokens, length_enclose]
  omega

end holds

section written

/-- A row with the given cells. -/
def RowTokens.ofTexts (cellType : String) (texts : List (List InlineToken)) : RowTokens where
  opening := { type := "tr_open" }
  cells := texts.map fun text =>
    { opening := { type := cellType }
      inline := { type := "inline", children := text }
      closing := { type := "" } }
  closing := { type := "tr_close" }

@[simp]
theorem RowTokens.texts_ofTexts (cellType : String) (texts : List (List InlineToken)) :
    (ofTexts cellType texts).texts = texts := by
  rw [RowTokens.texts, ofTexts, List.map_map]
  exact List.map_id texts

theorem RowTokens.wellFormed_ofTexts (cellType : String) (texts : List (List InlineToken)) :
    (ofTexts cellType texts).WellFormed cellType :=
  ⟨rfl, by simp [ofTexts], rfl⟩

/-- A table with the given cells, and with a body when there are rows. -/
def TableTokens.ofTexts (header : List (List InlineToken))
    (rows : List (List (List InlineToken))) : TableTokens where
  opening := { type := "table_open" }
  head :=
    { opening := { type := "thead_open" }
      rows := [RowTokens.ofTexts "th_open" header]
      closing := { type := "thead_close" } }
  body :=
    if rows.isEmpty then none
    else
      some
        { opening := { type := "tbody_open" }
          rows := rows.map (RowTokens.ofTexts "td_open")
          closing := { type := "tbody_close" } }
  closing := { type := "table_close" }

/-- Any cells can be written as the tokens of a table. -/
theorem TableTokens.holds_ofTexts (header : List (List InlineToken))
    (rows : List (List (List InlineToken))) : (ofTexts header rows).Holds header rows where
  opens := rfl
  head := ⟨rfl, by simp [ofTexts, RowTokens.wellFormed_ofTexts], rfl⟩
  body := by
    intro part found
    obtain ⟨-, equal⟩ := Option.ite_none_left_eq_some.mp found
    cases equal
    exact ⟨rfl, by simp [RowTokens.wellFormed_ofTexts], rfl⟩
  closes := rfl
  headRow := by simp [ofTexts]
  bodyRows := by cases rows <;> simp [ofTexts, Function.comp_def]

end written

/-! ## Cells on a card -/

/-- Whether a text has only nodes with a mapping to a card, at any depth. -/
def Inline.AllSupported (nodes : List Inline) : Prop :=
  ∀ node ∈ Inline.allReached nodes, node.isSupported = true

theorem Inline.AllSupported.allRuns_eq {nodes : List Inline} (supported : AllSupported nodes) :
    Inline.allRuns nodes = .ok (Inline.leafRuns nodes) := by
  have unstopped := Inline.stop?_allRuns nodes
  rw [PageNode.firstReport?_eq_none.mpr supported, stop?_eq_none] at unstopped
  obtain ⟨runs, converted⟩ := unstopped
  rw [converted, Inline.allRuns_eq nodes converted]

namespace Element

/-- A table cell with one block of text. -/
def textCell (runs : List TextRun) : Element :=
  .tableCell [.richText runs {}] {}

/-- A table of texts: a plain column for each cell of the header, the header as a row that stands
out, and the other rows unstyled. -/
def textTable (header : List (List TextRun)) (rows : List (List (List TextRun))) : Element :=
  .table (List.replicate header.length {})
    (.tableRow (header.map textCell) (some .emphasis) {} ::
      rows.map fun row => .tableRow (row.map textCell) none {})
    {}

/-- Whether a table has a cell for each of its columns in each of its rows. -/
def IsAligned : Element → Prop
  | table columns rows _ =>
      ∀ row ∈ rows, ∃ cells style placement,
        row = .tableRow cells style placement ∧ cells.length = columns.length
  | _ => False

theorem isAligned_textTable {header : List (List TextRun)} {rows : List (List (List TextRun))}
    (even : ∀ row ∈ rows, row.length = header.length) : (textTable header rows).IsAligned := by
  refine List.forall_mem_cons.mpr ⟨⟨_, _, _, rfl, by simp⟩, fun element member => ?_⟩
  obtain ⟨row, found, rfl⟩ := List.mem_map.mp member
  exact ⟨_, _, _, rfl, by simp [even row found]⟩

end Element

theorem tableElement_eq (header : List Cell) (rows : List (List Cell)) :
    tableElement header rows =
      .textTable (header.map Inline.leafRuns) (rows.map (List.map Inline.leafRuns)) := by
  simp [tableElement, Element.textTable, Element.textCell, cellElement, Function.comp_def]

/-- A table is rendered cell by cell when all its cells are supported. -/
theorem renderTable_of_supported {header : List Cell} {rows : List (List Cell)}
    (supported : ∀ cell ∈ header ++ rows.flatten, Inline.AllSupported cell) :
    renderTable header rows =
      .ok (.textTable (header.map Inline.leafRuns) (rows.map (List.map Inline.leafRuns))) := by
  have reached : ∀ node ∈ Cell.allReached header ++ rows.flatMap Cell.allReached,
      node.isSupported = true := by
    intro node member
    obtain inHeader | inRows := List.mem_append.mp member
    · obtain ⟨cell, found, inside⟩ := List.mem_flatMap.mp inHeader
      exact supported cell (List.mem_append_left _ found) node inside
    · obtain ⟨row, foundRow, inRow⟩ := List.mem_flatMap.mp inRows
      obtain ⟨cell, found, inside⟩ := List.mem_flatMap.mp inRow
      exact supported cell (List.mem_append_right _ (List.mem_flatten.mpr ⟨row, foundRow, found⟩))
        node inside
  have unstopped := stop?_renderTable header rows
  rw [PageNode.firstReport?_eq_none.mpr reached, stop?_eq_none] at unstopped
  obtain ⟨element, rendered⟩ := unstopped
  rw [rendered, renderTable_eq header rows rendered, tableElement_eq]

/-- Whether the text of a cell is converted to some runs. -/
def Converts (text : List InlineToken) (runs : List TextRun) : Prop :=
  Inline.allRuns (Inline.ofTokens text) = .ok runs

/-- Supported cells are converted one by one. -/
theorem forall₂_converts {texts : List (List InlineToken)}
    (supported : ∀ text ∈ texts, Inline.AllSupported (Inline.ofTokens text)) :
    List.Forall₂ Converts texts ((texts.map Inline.ofTokens).map Inline.leafRuns) := by
  rw [List.map_map, List.forall₂_map_right_iff, List.forall₂_same]
  exact fun text member => (supported text member).allRuns_eq

/-- Any cells can be written as a table, and however they are written and whatever stands around the
table, reading gives each of them back in its place and ends behind the closing token.  When all
nodes in the cells are supported, the card shows the runs of each cell in its place, in a table with
a plain column for each header cell, which is even when the rows are as long as the header. -/
theorem TableTokens.cells_survive (header : List (List InlineToken))
    (rows : List (List (List InlineToken))) :
    (∃ table : TableTokens, table.Holds header rows) ∧
    (∀ (table : TableTokens) (before after : List BlockToken), table.Holds header rows →
      ∃ width,
        readTable ((before ++ table.tokens ++ after).drop (before.length + 1)) =
            .ok ({ header := header.map Inline.ofTokens
                   rows := rows.map (List.map Inline.ofTokens) }, width) ∧
          before.length + 1 + width = (before ++ table.tokens).length) ∧
    ((∀ text ∈ header ++ rows.flatten, Inline.AllSupported (Inline.ofTokens text)) →
      ∃ headerRuns rowRuns,
        List.Forall₂ Converts header headerRuns ∧
        List.Forall₂ (List.Forall₂ Converts) rows rowRuns ∧
        renderTable (header.map Inline.ofTokens) (rows.map (List.map Inline.ofTokens)) =
          .ok (.textTable headerRuns rowRuns) ∧
        ((∀ row ∈ rows, row.length = header.length) →
          (Element.textTable headerRuns rowRuns).IsAligned)) := by
  refine ⟨⟨ofTexts header rows, holds_ofTexts header rows⟩, ?_, fun supported => ?_⟩
  · intro table before after holds
    have read := holds.toWellFormed.readTable_stream before after
    rwa [holds.header_eq, holds.rows_eq] at read
  · have inHeader : ∀ text ∈ header, Inline.AllSupported (Inline.ofTokens text) :=
      fun text member => supported text (List.mem_append_left _ member)
    have inRows : ∀ row ∈ rows, ∀ text ∈ row, Inline.AllSupported (Inline.ofTokens text) :=
      fun row found text member =>
        supported text (List.mem_append_right _ (List.mem_flatten.mpr ⟨row, found, member⟩))
    have cells : ∀ cell ∈ header.map Inline.ofTokens ++
        (rows.map (List.map Inline.ofTokens)).flatten, Inline.AllSupported cell := by
      rw [← List.map_flatten, ← List.map_append]
      exact List.forall_mem_map.mpr supported
    refine ⟨_, _, forall₂_converts inHeader, ?_, renderTable_of_supported cells, fun even => ?_⟩
    · rw [List.map_map, List.forall₂_map_right_iff, List.forall₂_same]
      exact fun row found => forall₂_converts (inRows row found)
    · refine Element.isAligned_textTable ?_
      simpa using even

/-- A header cell with bold text, and one that is empty. -/
def gridHeader : List (List InlineToken) :=
  [[{ type := "strong_open", markup := "**" }, { type := "text", content := "h" },
      { type := "strong_close" }],
    []]

/-- A row with an empty cell, and a row of two texts. -/
def gridRows : List (List (List InlineToken)) :=
  [[[], [{ type := "text", content := "a" }]],
    [[{ type := "code_inline", content := "b", markup := "`" }],
      [{ type := "text", content := "c" }]]]

/-- A thematic break. -/
def ruleToken : BlockToken :=
  { type := "hr" }

theorem TableTokens.cells_survive_grid :
    (ofTexts gridHeader gridRows).Holds gridHeader gridRows ∧
    (∃ width,
      readTable (([ruleToken] ++ (ofTexts gridHeader gridRows).tokens ++ [ruleToken]).drop 2) =
          .ok ({ header := gridHeader.map Inline.ofTokens
                 rows := gridRows.map (List.map Inline.ofTokens) }, width) ∧
        2 + width = ([ruleToken] ++ (ofTexts gridHeader gridRows).tokens).length) ∧
    (∀ text ∈ gridHeader ++ gridRows.flatten, Inline.AllSupported (Inline.ofTokens text)) ∧
    (∀ row ∈ gridRows, row.length = gridHeader.length) ∧
    ∃ headerRuns rowRuns,
      List.Forall₂ Converts gridHeader headerRuns ∧
      List.Forall₂ (List.Forall₂ Converts) gridRows rowRuns ∧
      renderTable (gridHeader.map Inline.ofTokens) (gridRows.map (List.map Inline.ofTokens)) =
        .ok (.textTable headerRuns rowRuns) ∧
      (Element.textTable headerRuns rowRuns).IsAligned := by
  have supported : ∀ text ∈ gridHeader ++ gridRows.flatten,
      Inline.AllSupported (Inline.ofTokens text) := by
    unfold Inline.AllSupported
    decide
  have even : ∀ row ∈ gridRows, row.length = gridHeader.length := by decide
  obtain ⟨-, reads, shows⟩ := TableTokens.cells_survive gridHeader gridRows
  obtain ⟨headerRuns, rowRuns, header, rows, rendered, aligned⟩ := shows supported
  have holds := holds_ofTexts gridHeader gridRows
  exact ⟨holds, reads _ [ruleToken] [ruleToken] holds, supported, even, headerRuns, rowRuns, header,
    rows, rendered, aligned even⟩

end CardPress
