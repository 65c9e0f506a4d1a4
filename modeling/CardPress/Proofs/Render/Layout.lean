import CardPress.Proofs.Render.Leaves
import CardPress.Render.Pass

/-!
# Layout of a body

A body is laid out from what its blocks give to the sequence they stand in.  The sequence is cut
into slots, one for each element: the piece that the element comes from, and the blank lines and
thematic breaks behind it.  The space of an element is the number of blank lines in its slot; a line
separates it from the element before when a break stands between the two, or at the end of the
quote before it.  The central theorem says that a rendered body is this layout.
-/

namespace CardPress

/-- What a block gives to the sequence it stands in. -/
inductive Piece where
  /-- A blank line. -/
  | space
  /-- A thematic break. -/
  | rule
  /-- A block with an element of its own; `pending` marks a quote that ends with a break. -/
  | element (content : Element) (pending : Bool)
  deriving Repr

namespace Piece

def isSpace : Piece → Bool
  | space => true
  | _ => false

def isRule : Piece → Bool
  | rule => true
  | _ => false

def isElement : Piece → Bool
  | element _ _ => true
  | _ => false

/-- Whether a piece is a quote that ends with a break. -/
def endsPending : Piece → Bool
  | element _ pending => pending
  | _ => false

end Piece

/-- The spacing of an element followed by a number of blank lines; without any it is not set. -/
def spacingAfter (count : Nat) : Option Spacing :=
  if count = 0 then none else Spacing.ladder[min 5 count]?

theorem spacingAfter_succ (count : Nat) :
    spacingAfter (count + 1) = some (Spacing.escalate (spacingAfter count)) := by
  match count with
  | 0 | 1 | 2 | 3 | 4 => rfl
  | count + 5 =>
      have top : min 5 (count + 5) = 5 := by omega
      have topNext : min 5 (count + 5 + 1) = 5 := by omega
      rw [spacingAfter, spacingAfter, if_neg (by omega), if_neg (by omega), top, topNext]
      rfl

/-- A place of the body: the piece that its element comes from, and the pieces behind it up to the
next place. -/
structure Slot where
  source : Piece
  gap : List Piece
  deriving Repr

namespace Slot

/-- All pieces of a slot. -/
def pieces (slot : Slot) : List Piece :=
  slot.source :: slot.gap

/-- The element of a slot before it is placed; a blank line in front of all others makes room with
an empty container. -/
def content (slot : Slot) : Element :=
  match slot.source with
  | .element content _ => content
  | _ => .container [] none {}

/-- The number of blank lines in a slot, its source included. -/
def spaces (slot : Slot) : Nat :=
  slot.pieces.countP Piece.isSpace

/-- Whether the next element is separated from the one of this slot. -/
def handsOn (slot : Slot) : Bool :=
  slot.source.endsPending || slot.gap.any Piece.isRule

/-- The element of a slot in its place. -/
def place (separated : Bool) (slot : Slot) : Element :=
  slot.content.place { spacing := spacingAfter slot.spaces, separator := separated }

@[simp]
theorem place_element (separated : Bool) (content : Element) (pending : Bool) (gap : List Piece) :
    ({ source := .element content pending, gap } : Slot).place separated =
      content.place
        { spacing := spacingAfter (gap.countP Piece.isSpace), separator := separated } := by
  simp [place, Slot.content, spaces, pieces, Piece.isSpace]

@[simp]
theorem place_space (separated : Bool) (gap : List Piece) :
    ({ source := .space, gap } : Slot).place separated =
      Element.place
        { spacing := spacingAfter (gap.countP Piece.isSpace + 1), separator := separated }
        (.container [] none {}) := by
  simp [place, Slot.content, spaces, pieces, List.countP_cons, Piece.isSpace]

@[simp]
theorem handsOn_element (content : Element) (pending : Bool) (gap : List Piece) :
    ({ source := .element content pending, gap } : Slot).handsOn =
      (pending || gap.any Piece.isRule) := rfl

@[simp]
theorem handsOn_space (gap : List Piece) :
    ({ source := .space, gap } : Slot).handsOn = gap.any Piece.isRule := rfl

end Slot

namespace Layout

/-- Cut a sequence before each of its elements. -/
def cut : List Piece → List Piece × List Slot
  | [] => ([], [])
  | .element content pending :: pieces =>
      ([], { source := .element content pending, gap := (cut pieces).1 } :: (cut pieces).2)
  | piece :: pieces => (piece :: (cut pieces).1, (cut pieces).2)

/-- The breaks in front of the first slot. -/
def front (pieces : List Piece) : List Piece :=
  (cut pieces).1.takeWhile Piece.isRule

/-- The slots of a sequence: one for each element, after one for a blank line that comes before
all of them. -/
def slots (pieces : List Piece) : List Slot :=
  match (cut pieces).1.dropWhile Piece.isRule with
  | [] => (cut pieces).2
  | blank :: gap => { source := blank, gap } :: (cut pieces).2

/-- For each slot whether its element is separated from what comes before, and last of all whether
a break is left over. -/
def separators (waiting : Bool) (slots : List Slot) : List Bool :=
  waiting :: slots.map Slot.handsOn

/-- The elements of slots that stand behind a break, or behind none. -/
def elements (waiting : Bool) (slots : List Slot) : List Element :=
  List.zipWith Slot.place (separators waiting slots) slots

/-- Whether a break is left over behind the last slot. -/
def leftOver (waiting : Bool) (slots : List Slot) : Bool :=
  (separators waiting slots).getLastD false

/-- The elements of a sequence. -/
def body (pieces : List Piece) : List Element :=
  elements ((front pieces).any Piece.isRule) (slots pieces)

/-- Whether a sequence ends with a break that separates nothing in it. -/
def endsPending (pieces : List Piece) : Bool :=
  leftOver ((front pieces).any Piece.isRule) (slots pieces)

/-- The elements of a whole page, where a break at the end gets an empty bordered container. -/
def page (pieces : List Piece) : List Element :=
  body pieces ++
    if endsPending pieces then [.container [] (some true) { separator := true }] else []

@[simp]
theorem elements_nil (waiting : Bool) : elements waiting [] = [] := rfl

@[simp]
theorem elements_cons (waiting : Bool) (slot : Slot) (slots : List Slot) :
    elements waiting (slot :: slots) = slot.place waiting :: elements slot.handsOn slots := rfl

@[simp]
theorem leftOver_nil (waiting : Bool) : leftOver waiting [] = waiting := rfl

@[simp]
theorem leftOver_cons (waiting : Bool) (slot : Slot) (slots : List Slot) :
    leftOver waiting (slot :: slots) = leftOver slot.handsOn slots := rfl

@[simp]
theorem cut_space (pieces : List Piece) :
    cut (.space :: pieces) = (.space :: (cut pieces).1, (cut pieces).2) := rfl

@[simp]
theorem cut_rule (pieces : List Piece) :
    cut (.rule :: pieces) = (.rule :: (cut pieces).1, (cut pieces).2) := rfl

@[simp]
theorem cut_element (content : Element) (pending : Bool) (pieces : List Piece) :
    cut (.element content pending :: pieces) =
      ([], { source := .element content pending, gap := (cut pieces).1 } :: (cut pieces).2) := rfl

@[simp]
theorem front_space (pieces : List Piece) : front (.space :: pieces) = [] := rfl

@[simp]
theorem front_rule (pieces : List Piece) :
    front (.rule :: pieces) = .rule :: front pieces := rfl

@[simp]
theorem front_element (content : Element) (pending : Bool) (pieces : List Piece) :
    front (.element content pending :: pieces) = [] := rfl

@[simp]
theorem slots_space (pieces : List Piece) :
    slots (.space :: pieces) =
      { source := .space, gap := (cut pieces).1 } :: (cut pieces).2 := rfl

@[simp]
theorem slots_rule (pieces : List Piece) : slots (.rule :: pieces) = slots pieces := rfl

@[simp]
theorem slots_element (content : Element) (pending : Bool) (pieces : List Piece) :
    slots (.element content pending :: pieces) =
      { source := .element content pending, gap := (cut pieces).1 } :: (cut pieces).2 := rfl

/-! ## The slots cover the sequence -/

/-- What makes a list of slots, with the breaks in front of it, an arrangement of a sequence. -/
structure Arranges (pieces front : List Piece) (slots : List Slot) : Prop where
  /-- Nothing is left out, and the order is kept. -/
  whole : front ++ slots.flatMap Slot.pieces = pieces
  front_isRule : ∀ piece ∈ front, piece.isRule
  /-- No element stands in a gap. -/
  gap_isElement : ∀ slot ∈ slots, ∀ piece ∈ slot.gap, piece.isElement = false
  /-- Every slot but the first comes from an element of the sequence. -/
  tail_isElement : ∀ slot ∈ slots.tail, slot.source.isElement
  /-- The first slot comes from an element or from a blank line. -/
  head_isRule : ∀ slot ∈ slots.head?, slot.source.isRule = false

theorem cut_whole (pieces : List Piece) :
    (cut pieces).1 ++ (cut pieces).2.flatMap Slot.pieces = pieces := by
  induction pieces with
  | nil => rfl
  | cons piece pieces induction =>
      cases piece with
      | space => simpa using induction
      | rule => simpa using induction
      | element content pending => simpa [Slot.pieces] using induction

theorem cut_gap (pieces : List Piece) :
    (∀ piece ∈ (cut pieces).1, piece.isElement = false) ∧
      ∀ slot ∈ (cut pieces).2, slot.source.isElement ∧
        ∀ piece ∈ slot.gap, piece.isElement = false := by
  induction pieces with
  | nil => simp [cut]
  | cons piece pieces induction =>
      obtain ⟨gap, later⟩ := induction
      cases piece with
      | space => exact ⟨by simpa [Piece.isElement] using gap, later⟩
      | rule => exact ⟨by simpa [Piece.isElement] using gap, later⟩
      | element content pending =>
          refine ⟨by simp, ?_⟩
          intro slot member
          rcases List.mem_cons.mp member with rfl | member
          · exact ⟨rfl, gap⟩
          · exact later slot member

theorem arranges (pieces : List Piece) : Arranges pieces (front pieces) (slots pieces) := by
  obtain ⟨gap, later⟩ := cut_gap pieces
  have whole := cut_whole pieces
  have halves := List.takeWhile_append_dropWhile (p := Piece.isRule) (l := (cut pieces).1)
  have breaks : ∀ piece ∈ front pieces, piece.isRule :=
    List.all_eq_true.mp List.all_takeWhile
  cases blanks : (cut pieces).1.dropWhile Piece.isRule with
  | nil =>
      have same : slots pieces = (cut pieces).2 := by simp [slots, blanks]
      rw [blanks, List.append_nil] at halves
      exact
        { whole := by rw [same, front, halves, whole]
          front_isRule := breaks
          gap_isElement := fun slot member => (later slot (same ▸ member)).2
          tail_isElement := fun slot member =>
            (later slot (List.mem_of_mem_tail (same ▸ member))).1
          head_isRule := by
            intro slot member
            have source := (later slot (List.mem_of_mem_head? (same ▸ member))).1
            cases equal : slot.source <;> simp_all [Piece.isElement, Piece.isRule] }
  | cons blank rest =>
      have same : slots pieces = { source := blank, gap := rest } :: (cut pieces).2 := by
        simp [slots, blanks]
      rw [blanks] at halves
      have marks : ∀ piece ∈ blank :: rest, piece.isElement = false := by
        intro piece member
        exact gap piece (halves ▸ List.mem_append_right _ member)
      have notRule : blank.isRule = false := by
        have head := List.head?_dropWhile_not Piece.isRule (cut pieces).1
        simpa [blanks] using head
      exact
        { whole := by
            rw [same, front, List.flatMap_cons, Slot.pieces, ← List.append_assoc, halves, whole]
          front_isRule := breaks
          gap_isElement := by
            intro slot member piece inGap
            rcases List.mem_cons.mp (same ▸ member) with rfl | member
            · exact marks piece (List.mem_cons_of_mem blank inGap)
            · exact (later slot member).2 piece inGap
          tail_isElement := by
            intro slot member
            rw [same, List.tail_cons] at member
            exact (later slot member).1
          head_isRule := by
            intro slot member
            rw [same, List.head?_cons, Option.mem_some_iff] at member
            rw [← member]
            exact notRule }

end Layout

/-! ## A pass lays its pieces out -/

namespace Pass

/-- Continue a pass with one more piece. -/
def take (pass : Pass) : Piece → Pass
  | .space => pass.space
  | .rule => pass.hold
  | .element content pending =>
      let outer := pass.append (content.place {})
      if pending then outer.hold else outer

/-- The state of a pass inside a slot: the elements before it, its own element so far, and whether
a break is waiting. -/
def inSlot (done : List Element) (content : Element) (count : Nat) (separated waiting : Bool) :
    Pass where
  body := done ++ [content.place { spacing := spacingAfter count, separator := separated }]
  pending := waiting
  last := some done.length

theorem take_rule_inSlot (done : List Element) (content : Element) (count : Nat)
    (separated waiting : Bool) :
    (inSlot done content count separated waiting).take .rule =
      inSlot done content count separated true := rfl

theorem take_space_inSlot (done : List Element) (content : Element) (count : Nat)
    (separated waiting : Bool) :
    (inSlot done content count separated waiting).take .space =
      inSlot done content (count + 1) separated waiting := by
  have last (element : Element) :
      (done ++ [element]).modify done.length Element.widen = done ++ [element.widen] := by
    simp [List.modify_eq_take_cons_drop]
  simp [take, space, inSlot, widen, last, Element.widen, spacingAfter_succ]

theorem append_place (pass : Pass) (content : Element) :
    pass.append (content.place {}) =
      inSlot pass.body content 0 pass.pending false := by
  cases waiting : pass.pending <;> simp [append, inSlot, waiting, Element.separate, spacingAfter]

theorem take_element (pass : Pass) (content : Element) (pending : Bool) :
    pass.take (.element content pending) =
      inSlot pass.body content 0 pass.pending pending := by
  cases pending <;> simp [take, append_place, hold, inSlot]

/-- The position of the last of a list of elements behind others. -/
def lastOf (before : Nat) : List Slot → Option Nat
  | [] => none
  | _ :: later => some (before + later.length)

/-- Inside a slot, a sequence fills the gap of the slot and lays out the slots behind it. -/
theorem foldl_take_inSlot (pieces : List Piece) (done : List Element) (content : Element)
    (count : Nat) (separated waiting : Bool) :
    pieces.foldl take (inSlot done content count separated waiting) =
      { body :=
          done ++
            content.place
              { spacing := spacingAfter (count + (Layout.cut pieces).1.countP Piece.isSpace)
                separator := separated } ::
              Layout.elements (waiting || (Layout.cut pieces).1.any Piece.isRule)
                (Layout.cut pieces).2
        pending :=
          Layout.leftOver (waiting || (Layout.cut pieces).1.any Piece.isRule)
            (Layout.cut pieces).2
        last := some (done.length + (Layout.cut pieces).2.length) } := by
  induction pieces generalizing done content count separated waiting with
  | nil => simp [Layout.cut, inSlot]
  | cons piece pieces induction =>
      cases piece with
      | space =>
          rw [List.foldl_cons, take_space_inSlot, induction]
          simp [List.countP_cons, Piece.isSpace, Piece.isRule, Nat.add_right_comm count 1,
            Nat.add_assoc]
      | rule =>
          rw [List.foldl_cons, take_rule_inSlot, induction]
          simp [Piece.isSpace, Piece.isRule]
      | element next pending =>
          rw [List.foldl_cons, take_element, induction]
          simp [inSlot, Nat.add_comm 1, Nat.add_assoc]

/-- In front of its first element a pass only holds breaks back. -/
theorem foldl_take_front (pieces : List Piece) (waiting : Bool) :
    pieces.foldl take { pending := waiting } =
      { body :=
          Layout.elements (waiting || (Layout.front pieces).any Piece.isRule)
            (Layout.slots pieces)
        pending :=
          Layout.leftOver (waiting || (Layout.front pieces).any Piece.isRule)
            (Layout.slots pieces)
        last := lastOf 0 (Layout.slots pieces) } := by
  induction pieces generalizing waiting with
  | nil => simp [Layout.front, Layout.slots, Layout.cut, lastOf]
  | cons piece pieces induction =>
      cases piece with
      | space =>
          have started : take { pending := waiting } .space =
              inSlot [] (.container [] none {}) 1 waiting false := by
            cases waiting <;> rfl
          rw [List.foldl_cons, started, foldl_take_inSlot]
          simp [lastOf, Nat.add_comm 1]
      | rule =>
          have held : take { pending := waiting } .rule = { pending := true } := rfl
          rw [List.foldl_cons, held, induction]
          simp [Piece.isRule]
      | element next pending =>
          rw [List.foldl_cons, take_element, foldl_take_inSlot]
          simp [lastOf]

/-- A fresh pass ends with the layout of its pieces. -/
theorem foldl_take (pieces : List Piece) :
    pieces.foldl take {} =
      { body := Layout.body pieces
        pending := Layout.endsPending pieces
        last := lastOf 0 (Layout.slots pieces) } := by
  simpa [Layout.body, Layout.endsPending] using foldl_take_front pieces false

end Pass

/-! ## Blocks as pieces -/

/-- The element of a table cell. -/
def cellElement (cell : Cell) : Element :=
  .tableCell [.richText (Inline.leafRuns cell) {}] {}

/-- The element of a table: a plain column for each header cell, and the header as first row. -/
def tableElement (header : List Cell) (rows : List (List Cell)) : Element :=
  .table (header.map fun _ => {})
    (.tableRow (header.map cellElement) (some .emphasis) {} ::
      rows.map fun row => .tableRow (row.map cellElement) none {})
    {}

mutual

/-- What a block gives to its sequence, read off the block alone.  A block without a meaning never
gets into a body; an element without content stands for it. -/
def Block.piece : Block → Piece
  | .space _ => .space
  | .rule _ => .rule
  | .heading level inlines _ =>
      let bold (run : TextRun) : TextRun :=
        { run with size := some (headingSize level), weight := some .bolder }
      .element (.richText ((Inline.leafRuns inlines).map bold) {}) false
  | .paragraph inlines _ => .element (.richText (Inline.leafRuns inlines) {}) false
  | .list _ raw => .element (.textBlock raw (some true) none none {}) false
  | .code language snippet _ => .element (.code snippet (nonempty? language) {}) false
  | .table header rows _ => .element (tableElement header rows) false
  | .quote blocks _ =>
      .element (.container (Layout.body (Block.pieces blocks)) (some true) {})
        (Layout.endsPending (Block.pieces blocks))
  | .image source alt title _ => .element (.image source (title <|> alt) {}) false
  | .html raw => .element (.textBlock raw (some true) none none {}) false
  | .definition label url title _ =>
      .element (.richText [TextRun.linkTo url { text := (nonempty? title).getD label }] {}) false
  | .unknown .. => .element (.bare {}) false

/-- What the blocks of a sequence give to it, in order. -/
def Block.pieces : List Block → List Piece
  | [] => []
  | block :: blocks => block.piece :: Block.pieces blocks

end

theorem renderCell_eq (cell : Cell) {element : Element} (rendered : renderCell cell = .ok element) :
    element = cellElement cell := by
  rw [renderCell, bind_eq_ok] at rendered
  obtain ⟨runs, converted, equal⟩ := rendered
  rw [Inline.allRuns_eq cell converted] at equal
  exact (Except.ok.inj equal).symm

theorem renderCells_eq (cells : List Cell) {elements : List Element}
    (rendered : renderCells cells = .ok elements) : elements = cells.map cellElement := by
  induction cells generalizing elements with
  | nil => exact (Except.ok.inj rendered).symm
  | cons cell cells induction =>
      rw [renderCells, bind_eq_ok] at rendered
      obtain ⟨first, firstRendered, later⟩ := rendered
      rw [bind_eq_ok] at later
      obtain ⟨rest, restRendered, equal⟩ := later
      rw [← Except.ok.inj equal, renderCell_eq cell firstRendered, induction restRendered,
        List.map_cons]

theorem renderRows_eq (rows : List (List Cell)) {elements : List Element}
    (rendered : renderRows rows = .ok elements) :
    elements = rows.map fun row => .tableRow (row.map cellElement) none {} := by
  induction rows generalizing elements with
  | nil => exact (Except.ok.inj rendered).symm
  | cons row rows induction =>
      rw [renderRows, bind_eq_ok] at rendered
      obtain ⟨first, firstRendered, later⟩ := rendered
      rw [bind_eq_ok] at later
      obtain ⟨rest, restRendered, equal⟩ := later
      rw [← Except.ok.inj equal, renderCells_eq row firstRendered, induction restRendered,
        List.map_cons]

theorem renderTable_eq (header : List Cell) (rows : List (List Cell)) {element : Element}
    (rendered : renderTable header rows = .ok element) : element = tableElement header rows := by
  rw [renderTable, bind_eq_ok] at rendered
  obtain ⟨headerCells, headerRendered, later⟩ := rendered
  rw [bind_eq_ok] at later
  obtain ⟨bodyRows, rowsRendered, equal⟩ := later
  rw [← Except.ok.inj equal, renderCells_eq header headerRendered,
    renderRows_eq rows rowsRendered, tableElement]

theorem headingRuns_eq (level : Int) (inlines : List Inline) {runs : List TextRun}
    (converted : headingRuns level inlines = .ok runs) :
    runs =
      (Inline.leafRuns inlines).map fun run =>
        { run with size := some (headingSize level), weight := some .bolder } := by
  rw [headingRuns, bind_eq_ok] at converted
  obtain ⟨plain, plainConverted, equal⟩ := converted
  rw [← Except.ok.inj equal, Inline.allRuns_eq inlines plainConverted]

mutual

/-- A step of a pass takes the piece of its block. -/
theorem Pass.step_eq (block : Block) {pass next : Pass} (stepped : pass.step block = .ok next) :
    next = pass.take block.piece := by
  cases block with
  | space raw => exact (Except.ok.inj stepped).symm
  | rule raw => exact (Except.ok.inj stepped).symm
  | heading level inlines raw =>
      rw [Pass.step, bind_eq_ok] at stepped
      obtain ⟨runs, converted, equal⟩ := stepped
      rw [← Except.ok.inj equal, headingRuns_eq level inlines converted]
      rfl
  | paragraph inlines raw =>
      rw [Pass.step, bind_eq_ok] at stepped
      obtain ⟨runs, converted, equal⟩ := stepped
      rw [← Except.ok.inj equal, Inline.allRuns_eq inlines converted]
      rfl
  | list ordered raw => exact (Except.ok.inj stepped).symm
  | code language snippet raw => exact (Except.ok.inj stepped).symm
  | table header rows raw =>
      rw [Pass.step, bind_eq_ok] at stepped
      obtain ⟨element, rendered, equal⟩ := stepped
      rw [← Except.ok.inj equal, renderTable_eq header rows rendered]
      rfl
  | quote blocks raw =>
      rw [Pass.step, bind_eq_ok] at stepped
      obtain ⟨inner, ran, equal⟩ := stepped
      have final := Pass.run_eq blocks ran
      rw [Pass.foldl_take] at final
      rw [← Except.ok.inj equal, final]
      rfl
  | image source alt title raw => exact (Except.ok.inj stepped).symm
  | html raw => exact (Except.ok.inj stepped).symm
  | definition label url title raw => exact (Except.ok.inj stepped).symm
  | unknown kind raw => cases stepped

/-- A run takes the pieces of its blocks one after the other. -/
theorem Pass.run_eq (blocks : List Block) {pass final : Pass}
    (ran : pass.run blocks = .ok final) :
    final = (Block.pieces blocks).foldl Pass.take pass := by
  cases blocks with
  | nil => exact (Except.ok.inj ran).symm
  | cons block blocks =>
      rw [Pass.run, bind_eq_ok] at ran
      obtain ⟨next, stepped, later⟩ := ran
      rw [Block.pieces, List.foldl_cons, ← Pass.step_eq block stepped]
      exact Pass.run_eq blocks later

end

/-- A rendered body is the layout of its blocks, and the slots of every sequence, at any depth of
quotes, are an arrangement of that sequence. -/
theorem renderBody_eq_page (blocks : List Block) {body : List Element}
    (rendered : renderBody blocks = .ok body) :
    body = Layout.page (Block.pieces blocks) ∧
      ∀ sequence : List Block,
        Layout.Arranges (Block.pieces sequence) (Layout.front (Block.pieces sequence))
          (Layout.slots (Block.pieces sequence)) := by
  refine ⟨?_, fun sequence => Layout.arranges (Block.pieces sequence)⟩
  rw [renderBody, bind_eq_ok] at rendered
  obtain ⟨pass, ran, equal⟩ := rendered
  have final := Pass.run_eq blocks ran
  rw [Pass.foldl_take] at final
  rw [← Except.ok.inj equal, final, Layout.page, Pass.finish]
  cases Layout.endsPending (Block.pieces blocks) with
  | false => simp
  | true => simp

/-- A break and a blank line in front, a wide gap, a quote that ends with a break, and a break at
the end. -/
def brokenPage : List Block :=
  [.rule "", .space "", .paragraph [] "", .space "", .space "", .rule "",
    .quote [.space "", .html "inner", .rule ""] "", .html "outer", .rule ""]

theorem renderBody_eq_page_broken :
    ∃ body, renderBody brokenPage = .ok body ∧
      body = [
        .container [] none { spacing := some .extraSmall, separator := true },
        .richText [] { spacing := some .small },
        .container [
          .container [] none { spacing := some .extraSmall },
          .textBlock "inner" (some true) none none {}] (some true) { separator := true },
        .textBlock "outer" (some true) none none { separator := true },
        .container [] (some true) { separator := true }] ∧
      body = Layout.page (Block.pieces brokenPage) :=
  ⟨_, rfl, rfl, (renderBody_eq_page brokenPage rfl).1⟩

end CardPress
