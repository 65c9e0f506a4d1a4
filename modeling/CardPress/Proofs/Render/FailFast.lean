import CardPress.Convert

/-!
# Failing fast

A page is rendered whole or not at all.  A conversion comes past the nodes of a page in the order in
which they are written: blocks before what is inside them, header cells before the rows below them,
and formatted text from left to right.  The central theorem says that the first of these nodes
without a meaning for cards stops the conversion and is the one that is reported, and that without
such a node there is a card.
-/

namespace CardPress

/-! ## Causes -/

section stop

variable {error first second : Type}

/-- The cause that a computation stops with, when it does. -/
def stop? : Except error first → Option error
  | .ok _ => none
  | .error cause => some cause

@[simp]
theorem stop?_ok (value : first) : stop? (.ok value : Except error first) = none := rfl

@[simp]
theorem stop?_error (cause : error) : stop? (.error cause : Except error first) = some cause := rfl

theorem stop?_eq_some {outcome : Except error first} {cause : error} :
    stop? outcome = some cause ↔ outcome = .error cause := by
  cases outcome with
  | ok value => simp
  | error cause => simp

theorem stop?_eq_none {outcome : Except error first} :
    stop? outcome = none ↔ ∃ value, outcome = .ok value := by
  cases outcome with
  | ok value => simp
  | error cause => simp

/-- When all continuations of a computation stop alike, only the causes count. -/
theorem stop?_bind {start : Except error first} {next : first → Except error second}
    {later : Option error} (alike : ∀ value, stop? (next value) = later) :
    stop? (start >>= next) = (stop? start).or later := by
  cases start with
  | ok value => exact alike value
  | error cause => rfl

theorem stop?_bind_pure {start : Except error first} {next : first → second} :
    stop? (start >>= fun value => pure (next value)) = stop? start := by
  cases start with
  | ok value => rfl
  | error cause => rfl

end stop

/-! ## Nodes in document order -/

/-- Whether a block has a mapping to a card. -/
def Block.isSupported : Block → Bool
  | unknown .. => false
  | _ => true

def Inline.isSupported : Inline → Bool
  | unknown .. => false
  | _ => true

/-- A node of a page. -/
inductive PageNode where
  | block (node : Block)
  | inline (node : Inline)

namespace PageNode

def isSupported : PageNode → Bool
  | block node => node.isSupported
  | inline node => node.isSupported

/-- The report of a node that stops a conversion. -/
def report : PageNode → Unsupported
  | block node => .block node.kind node.raw
  | inline node => .inline node.kind node.raw

/-- The reports of the nodes that have no mapping to a card, in order. -/
def reports (nodes : List PageNode) : List Unsupported :=
  (nodes.filter fun node => !node.isSupported).map report

/-- The report of the first of some nodes that has no mapping to a card. -/
def firstReport? (nodes : List PageNode) : Option Unsupported :=
  (reports nodes).head?

@[simp]
theorem reports_append (front back : List PageNode) :
    reports (front ++ back) = reports front ++ reports back := by
  simp [reports]

theorem reports_cons {node : PageNode} (supported : node.isSupported = true)
    (nodes : List PageNode) : reports (node :: nodes) = reports nodes := by
  simp [reports, supported]

@[simp]
theorem firstReport?_append (front back : List PageNode) :
    firstReport? (front ++ back) = (firstReport? front).or (firstReport? back) := by
  rw [firstReport?, reports_append, List.head?_append]
  rfl

theorem firstReport?_cons {node : PageNode} (supported : node.isSupported = true)
    (nodes : List PageNode) : firstReport? (node :: nodes) = firstReport? nodes := by
  rw [firstReport?, reports_cons supported]
  rfl

theorem firstReport?_eq_map (nodes : List PageNode) :
    firstReport? nodes = (nodes.find? fun node => !node.isSupported).map report := by
  rw [firstReport?, reports, List.head?_map, List.head?_filter]

theorem firstReport?_eq_none {nodes : List PageNode} :
    firstReport? nodes = none ↔ ∀ node ∈ nodes, node.isSupported = true := by
  rw [firstReport?_eq_map, Option.map_eq_none_iff, List.find?_eq_none]
  simp

theorem exists_firstReport? {nodes : List PageNode} :
    (∃ cause, firstReport? nodes = some cause) ↔ ∃ node ∈ nodes, node.isSupported = false := by
  rw [← Option.ne_none_iff_exists', Ne, firstReport?_eq_none]
  simp

theorem firstReport?_eq_some {nodes : List PageNode} {cause : Unsupported} :
    firstReport? nodes = some cause ↔
      ∃ node, nodes.find? (fun node => !node.isSupported) = some node ∧ node.report = cause := by
  rw [firstReport?_eq_map, Option.map_eq_some_iff]

end PageNode

mutual

/-- The nodes below a node of running text. -/
def Inline.inside : Inline → List PageNode
  | .marked _ _ children _ => Inline.allReached children
  | .link _ _ _ children _ => Inline.allReached children
  | _ => []

/-- The nodes of running text from left to right, each in front of the nodes below it. -/
def Inline.allReached : List Inline → List PageNode
  | [] => []
  | node :: nodes => (.inline node :: node.inside) ++ Inline.allReached nodes

end

/-- The nodes of a row, cell by cell. -/
def Cell.allReached (cells : List Cell) : List PageNode :=
  cells.flatMap Inline.allReached

mutual

/-- The nodes inside a block.  What a list holds is source and has no nodes. -/
def Block.inside : Block → List PageNode
  | .heading _ inlines _ => Inline.allReached inlines
  | .paragraph inlines _ => Inline.allReached inlines
  | .table header rows _ => Cell.allReached header ++ rows.flatMap Cell.allReached
  | .quote blocks _ => Block.allReached blocks
  | _ => []

/-- The nodes of a sequence of blocks, each block in front of the nodes inside it. -/
def Block.allReached : List Block → List PageNode
  | [] => []
  | block :: blocks => (.block block :: block.inside) ++ Block.allReached blocks

end

theorem Inline.allReached_append (front back : List Inline) :
    Inline.allReached (front ++ back) = Inline.allReached front ++ Inline.allReached back := by
  induction front with
  | nil => rfl
  | cons node front induction =>
      rw [List.cons_append, allReached, allReached, induction, List.append_assoc]

theorem Block.allReached_append (front back : List Block) :
    Block.allReached (front ++ back) = Block.allReached front ++ Block.allReached back := by
  induction front with
  | nil => rfl
  | cons block front induction =>
      rw [List.cons_append, allReached, allReached, induction, List.append_assoc]

/-! ## Running text stops at its first report -/

open PageNode

/-- A formatting node stops where its children do; without children it stops nowhere. -/
theorem Inline.stop?_formatted (text : String) (children : List Inline)
    (dress : TextRun → TextRun)
    (below : stop? (Inline.allRuns children) = firstReport? (Inline.allReached children)) :
    stop? (do
      let runs ← if children.isEmpty then pure [{ text }] else Inline.allRuns children
      return runs.map dress) = firstReport? (Inline.allReached children) := by
  cases children with
  | nil => rfl
  | cons child children => exact stop?_bind_pure.trans below

mutual

theorem Inline.stop?_runs (node : Inline) :
    stop? node.runs = firstReport? (.inline node :: node.inside) := by
  cases node with
  | literal form text raw => rfl
  | marked mark text children raw =>
      rw [Inline.runs, Inline.inside, firstReport?_cons rfl]
      exact Inline.stop?_formatted text children mark.style (Inline.stop?_allRuns children)
  | link text url title children raw =>
      rw [Inline.runs, Inline.inside, firstReport?_cons rfl]
      exact Inline.stop?_formatted text children (TextRun.linkTo url)
        (Inline.stop?_allRuns children)
  | image source alt title raw => rfl
  | unknown kind text raw => rfl

theorem Inline.stop?_allRuns (nodes : List Inline) :
    stop? (Inline.allRuns nodes) = firstReport? (Inline.allReached nodes) := by
  cases nodes with
  | nil => rfl
  | cons node nodes =>
      have later (runs : List TextRun) :
          stop? (do return runs ++ (← Inline.allRuns nodes)) =
            firstReport? (Inline.allReached nodes) := by
        rw [stop?_bind_pure, Inline.stop?_allRuns nodes]
      rw [Inline.allRuns, Inline.allReached, firstReport?_append, stop?_bind later,
        Inline.stop?_runs node]

end

/-! ## Blocks stop at their first report -/

theorem stop?_renderCells (cells : List Cell) :
    stop? (renderCells cells) = firstReport? (Cell.allReached cells) := by
  induction cells with
  | nil => rfl
  | cons cell cells induction =>
      have first : stop? (renderCell cell) = firstReport? (Inline.allReached cell) := by
        rw [renderCell, stop?_bind_pure, Inline.stop?_allRuns cell]
      have later (element : Element) :
          stop? (do return element :: (← renderCells cells)) =
            firstReport? (Cell.allReached cells) := by
        rw [stop?_bind_pure, induction]
      rw [renderCells, stop?_bind later, first, ← firstReport?_append]
      rfl

theorem stop?_renderRows (rows : List (List Cell)) :
    stop? (renderRows rows) = firstReport? (rows.flatMap Cell.allReached) := by
  induction rows with
  | nil => rfl
  | cons row rows induction =>
      have later (cells : List Element) :
          stop? (do return Element.tableRow cells none {} :: (← renderRows rows)) =
            firstReport? (rows.flatMap Cell.allReached) := by
        rw [stop?_bind_pure, induction]
      rw [renderRows, stop?_bind later, stop?_renderCells, List.flatMap_cons, firstReport?_append]

theorem stop?_renderTable (header : List Cell) (rows : List (List Cell)) :
    stop? (renderTable header rows) =
      firstReport? (Cell.allReached header ++ rows.flatMap Cell.allReached) := by
  have later (cells : List Element) :
      stop? (do
        let bodyRows ← renderRows rows
        return Element.table (header.map fun _ => {})
          (.tableRow cells (some .emphasis) {} :: bodyRows) {}) =
        firstReport? (rows.flatMap Cell.allReached) := by
    rw [stop?_bind_pure, stop?_renderRows]
  rw [renderTable, stop?_bind later, stop?_renderCells, firstReport?_append]

namespace Pass

mutual

theorem stop?_step (block : Block) (pass : Pass) :
    stop? (pass.step block) = firstReport? (.block block :: block.inside) := by
  cases block with
  | heading level inlines raw =>
      rw [step, Block.inside, firstReport?_cons rfl, stop?_bind_pure, headingRuns,
        stop?_bind_pure, Inline.stop?_allRuns]
  | paragraph inlines raw =>
      rw [step, Block.inside, firstReport?_cons rfl, stop?_bind_pure, Inline.stop?_allRuns]
  | table header rows raw =>
      rw [step, Block.inside, firstReport?_cons rfl, stop?_bind_pure,
        stop?_renderTable]
  | quote blocks raw =>
      rw [step, Block.inside, firstReport?_cons rfl, stop?_bind_pure, stop?_run blocks]
  | _ => rfl

/-- A run of a pass stops at the first node of its blocks without a meaning, wherever it starts. -/
theorem stop?_run (blocks : List Block) (pass : Pass) :
    stop? (pass.run blocks) = firstReport? (Block.allReached blocks) := by
  cases blocks with
  | nil => rfl
  | cons block blocks =>
      -- The blocks behind the first one stop alike, whatever state it leaves.
      rw [run, Block.allReached, firstReport?_append, stop?_bind (stop?_run blocks),
        stop?_step block]

end

end Pass

theorem stop?_renderBody (blocks : List Block) :
    stop? (renderBody blocks) = firstReport? (Block.allReached blocks) := by
  rw [renderBody, stop?_bind_pure, Pass.stop?_run]

/-- With any options, a card is made unless rendering stops. -/
theorem stop?_card (options : CardOptions) (blocks : List Block) :
    stop? (options.card <$> renderBody blocks) = firstReport? (Block.allReached blocks) := by
  rw [map_eq_pure_bind, stop?_bind_pure, stop?_renderBody]

/-- A card is made of a page exactly when the page has no node without a meaning for cards.
Otherwise the first such node is reported, whatever blocks follow. -/
theorem renderBody_failFast (options : CardOptions) (blocks : List Block) :
    ((∃ cause, options.card <$> renderBody blocks = .error cause) ↔
      ∃ node ∈ Block.allReached blocks, node.isSupported = false) ∧
    (∀ cause, options.card <$> renderBody blocks = .error cause →
      (∃ node, (Block.allReached blocks).find? (fun node => !node.isSupported) = some node ∧
        node.report = cause) ∧
      ∀ later, options.card <$> renderBody (blocks ++ later) = .error cause) ∧
    ((∀ node ∈ Block.allReached blocks, node.isSupported = true) →
      ∃ card, options.card <$> renderBody blocks = .ok card) := by
  simp only [← stop?_eq_some, ← stop?_eq_none, stop?_card]
  refine ⟨exists_firstReport?, ?_, firstReport?_eq_none.mpr⟩
  intro cause found
  constructor
  · exact firstReport?_eq_some.mp found
  · intro later
    rw [Block.allReached_append, firstReport?_append, found, Option.some_or]

/-- A page with an unknown mark in a table cell inside a quote, and an unknown block behind it. -/
def strangePage : List Block :=
  [.rule "---",
    .quote [
      .paragraph [.literal .plain "a" "a"] "a",
      .table [[.literal .plain "h" "h"]]
        [[[.marked .strong "m" [.unknown "mark" "m" "==m=="] "**m**"]]] ""] "> a",
    .unknown "toc" "[toc]"]

theorem renderBody_failFast_strange :
    CardOptions.card {} <$> renderBody strangePage = .error (.inline "mark" "==m==") ∧
      ∃ node, (Block.allReached strangePage).find? (fun node => !node.isSupported) = some node ∧
        node.report = .inline "mark" "==m==" :=
  ⟨rfl, ((renderBody_failFast {} strangePage).2.1 _ rfl).1⟩

end CardPress
