import CardPress.Render.Runs

/-!
# Rendering passes

A pass runs over sibling blocks from left to right and appends one element for each block that has
content.  A thematic break is held back until the next element, which it separates from the one
before; a blank line widens the space of the last element.  Each quote is a pass of its own.
-/

namespace CardPress

/-- A pass over sibling blocks, as far as it has come. -/
structure Pass where
  /-- The elements so far. -/
  body : List Element := []
  /-- A thematic break is waiting for the next element. -/
  pending : Bool := false
  /-- Position of the element that a blank line widens. -/
  last : Option Nat := none
  deriving Repr, Inhabited

namespace Pass

/-- Append an element, set off by a line when a thematic break is waiting for it. -/
def append (element : Element) (pass : Pass) : Pass :=
  { body := pass.body ++ [if pass.pending then element.separate else element]
    pending := false
    last := some pass.body.length }

/-- Widen the element at a position. -/
def widen (index : Nat) (pass : Pass) : Pass :=
  { pass with body := pass.body.modify index Element.widen }

/-- Account for a blank line; before the first element, an empty container takes its place. -/
def space (pass : Pass) : Pass :=
  match pass.last with
  | some index => pass.widen index
  | none => (pass.append (.container [] none {})).widen pass.body.length

/-- Hold a thematic break back for the next element. -/
def hold (pass : Pass) : Pass :=
  { pass with pending := true }

/-- Give a break that is still waiting a bordered container of its own. -/
def finish (pass : Pass) : Pass :=
  if pass.pending then
    { pass with
      body := pass.body ++ [.container [] (some true) { separator := true }]
      pending := false }
  else
    pass

end Pass

/-- The size of a heading's text; the fifth level and all others are small. -/
def headingSize (level : Int) : TextSize :=
  if level = 1 then .extraLarge
  else if level = 2 then .large
  else if level = 3 then .medium
  else if level = 4 then .default
  else .small

/-- The runs of a heading, all of them bold and of the size of its level. -/
def headingRuns (level : Int) (inlines : List Inline) : Except Unsupported (List TextRun) := do
  let runs ← Inline.allRuns inlines
  return runs.map fun run => { run with size := some (headingSize level), weight := some .bolder }

/-- A table cell, which holds its text as one block. -/
def renderCell (cell : Cell) : Except Unsupported Element := do
  return .tableCell [.richText (← Inline.allRuns cell) {}] {}

/-- The cells of a row, in order. -/
def renderCells : List Cell → Except Unsupported (List Element)
  | [] => .ok []
  | cell :: cells => do
      let element ← renderCell cell
      return element :: (← renderCells cells)

/-- The rows of a table below its header, in order. -/
def renderRows : List (List Cell) → Except Unsupported (List Element)
  | [] => .ok []
  | row :: rows => do
      let cells ← renderCells row
      return .tableRow cells none {} :: (← renderRows rows)

/-- A table, whose first row is the header and stands out. -/
def renderTable (header : List Cell) (rows : List (List Cell)) : Except Unsupported Element := do
  let headerCells ← renderCells header
  let bodyRows ← renderRows rows
  return .table (header.map fun _ => {}) (.tableRow headerCells (some .emphasis) {} :: bodyRows) {}

/-- A text, unless it is missing or empty. -/
def nonempty? : Option String → Option String
  | some text => if text.isEmpty then none else some text
  | none => none

mutual

/-- Continue a pass with one more block. -/
def Pass.step (pass : Pass) : Block → Except Unsupported Pass
  | .space _ => .ok pass.space
  | .rule _ => .ok pass.hold
  | .heading level inlines _ => do
      return pass.append (.richText (← headingRuns level inlines) {})
  | .paragraph inlines _ => do return pass.append (.richText (← Inline.allRuns inlines) {})
  | .list _ raw => .ok (pass.append (.textBlock raw (some true) none none {}))
  | .code language code _ => .ok (pass.append (.code code (nonempty? language) {}))
  | .table header rows _ => do return pass.append (← renderTable header rows)
  | .quote blocks _ => do
      let inner ← Pass.run {} blocks
      let outer := pass.append (.container inner.body (some true) {})
      return if inner.pending then outer.hold else outer
  | .image source alt title _ => .ok (pass.append (.image source (title <|> alt) {}))
  | .html raw => .ok (pass.append (.textBlock raw (some true) none none {}))
  | .definition label url title _ =>
      let text := (nonempty? title).getD label
      .ok (pass.append (.richText [TextRun.linkTo url { text }] {}))
  | .unknown kind raw => .error (.block kind raw)

/-- Continue a pass with a sequence of blocks, up to the first that cannot be rendered. -/
def Pass.run (pass : Pass) : List Block → Except Unsupported Pass
  | [] => .ok pass
  | block :: blocks => do
      let next ← pass.step block
      next.run blocks

end

/-- The body of a card: one pass over all blocks, with a last break that waits made visible. -/
def renderBody (blocks : List Block) : Except Unsupported (List Element) := do
  let pass ← Pass.run {} blocks
  return pass.finish.body

end CardPress
