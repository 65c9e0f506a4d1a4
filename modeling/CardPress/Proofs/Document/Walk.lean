import CardPress.Proofs.Document.TokenIndex
import CardPress.Proofs.Fallible
import Mathlib.Logic.Relation

/-!
# Walks over tokens

Reading blocks is a walk over the indexes of the tokens.  It goes through five loops: one over
siblings, and inside a table one over its sections, one over the cells of a head, one over the rows
of a body and one over the cells of a row.  Where an iteration goes on from depends on the tokens: a
few of them further, behind the token that closes a container, or behind the end of a quote.  The
central lemma says that every iteration of every loop goes on from a greater index, and that beyond
the last token it can only leave the loop.
-/

namespace CardPress

/-- The token at an index. -/
def tokenAt (tokens : List BlockToken) (index : Int) : Except ReadError BlockToken :=
  match Text.at? tokens index with
  | some token => .ok token
  | none => .error .missing

/-- The running text of the token at an index. -/
def textAt (tokens : List BlockToken) (index : Int) : Except ReadError (List Inline) := do
  return Inline.ofTokens (← tokenAt tokens index).children

/-- Siblings that are being read. -/
structure OpenLevel where
  stops : List String
  lines : List String
  sibling : Sibling := {}
  found : List Block := []

/-- A level with more blocks. -/
def OpenLevel.add (level : OpenLevel) (blocks : List Block) : OpenLevel :=
  { level with found := level.found ++ blocks }

/-- A quote whose inside is being read. -/
structure OpenQuote where
  raw : String
  /-- The level that the quote belongs to. -/
  around : OpenLevel

/-- The innermost loop that a walk is in, with what is known of the table that it reads. -/
inductive Loop where
  | siblings
  | sections (raw : String) (cells : TableCells)
  | head (raw : String) (cells : TableCells)
  | body (raw : String) (cells : TableCells)
  | row (raw : String) (cells : TableCells) (row : List Cell)

/-- A walk in front of an iteration. -/
structure Walk where
  index : Int
  loop : Loop := .siblings
  level : OpenLevel
  /-- The quotes around the level, the innermost first. -/
  quotes : List OpenQuote := []

/-- What an iteration comes to. -/
inductive Iteration where
  | goesOn (walk : Walk)
  | ends (blocks : List Block) (index : Int)

namespace Walk

/-- The walk over siblings from an index on. -/
def entrance (stops lines : List String) (index : Int) : Walk :=
  { index, level := { stops, lines } }

/-- A walk that goes on in a loop some tokens further. -/
def enter (walk : Walk) (count : Nat) (loop : Loop) : Walk :=
  { walk with index := walk.index + count, loop }

/-- A walk that goes on behind a block. -/
def pass (walk : Walk) (level : OpenLevel) (blocks : List Block) (index : Int) : Walk :=
  { walk with index, loop := .siblings, level := level.add blocks }

/-- Leave a table. -/
def leaveTable (walk : Walk) (raw : String) (cells : TableCells) : Walk :=
  walk.pass walk.level [.table cells.header cells.rows raw] (walk.index + 1)

/-- Leave a level: a quote ends, or the page. -/
def leave (walk : Walk) : Iteration :=
  match walk.quotes with
  | [] => .ends walk.level.found walk.index
  | quote :: quotes =>
      .goesOn
        { index := walk.index + 1
          level := quote.around.add [.quote walk.level.found quote.raw]
          quotes }

/-- Start the block of a token with a source, on a level that has been told of the token. -/
def startBlock (tokens : List BlockToken) (walk : Walk) (token : BlockToken) (level : OpenLevel)
    (raw : String) : Except ReadError Walk := do
  match token.role with
  | .heading =>
      let inlines ← textAt tokens (walk.index + 1)
      let depth ← headingLevel token.tag
      return walk.pass level [.heading depth inlines raw] (walk.index + 3)
  | .paragraph =>
      let inlines ← textAt tokens (walk.index + 1)
      return walk.pass level [paragraphBlock inlines raw] (walk.index + 3)
  | .list ordered =>
      let close ← closeIndex tokens walk.index
      return walk.pass level [.list ordered raw] (close + 1)
  | .code =>
      let block := Block.code (fenceLanguage token.info) (dropLineFeeds token.content) raw
      return walk.pass level [block] (walk.index + 1)
  | .rule => return walk.pass level [.rule raw] (walk.index + 1)
  | .table => return { walk with index := walk.index + 1, loop := .sections raw {}, level }
  | .quote =>
      match token.span with
      | none => throw .unmappedQuote
      | some span =>
          let inner ← dropQuoteMarkers level.lines span
          return {
            index := walk.index + 1
            level := { stops := ["blockquote_close"], lines := inner }
            quotes := { raw, around := level } :: walk.quotes }
  | .html => return walk.pass level [.html (dropLineFeeds token.content)] (walk.index + 1)
  | .definition => return walk.pass level [token.definition.block raw] (walk.index + 1)
  | .unknownContainer kind =>
      let close ← closeIndex tokens walk.index
      return walk.pass level [.unknown kind raw] (close + 1)
  | .unknownLeaf =>
      let block := Block.unknown token.type (firstNonempty raw token.content)
      return walk.pass level [block] (walk.index + 1)
  | .closing => return walk.pass level [] (walk.index + 1)

/-- Start the block of a token. -/
def start (tokens : List BlockToken) (walk : Walk) (token : BlockToken) :
    Except ReadError Walk := do
  let gap := walk.level.sibling.gap walk.level.lines token
  let sibling ← walk.level.sibling.after walk.level.lines token
  let raw ← rawText walk.level.lines token.span
  walk.startBlock tokens token { walk.level.add gap with sibling } raw

/-- An iteration over siblings. -/
def siblingsStep (tokens : List BlockToken) (walk : Walk) : Except ReadError Iteration := do
  if walk.index < tokens.length then
    let token ← tokenAt tokens walk.index
    if walk.level.stops.contains token.type then return walk.leave
    else return .goesOn (← walk.start tokens token)
  else return walk.leave

/-- An iteration over the sections of a table. -/
def sectionsStep (tokens : List BlockToken) (walk : Walk) (raw : String) (cells : TableCells) :
    Except ReadError Walk := do
  if walk.index < tokens.length then
    let token ← tokenAt tokens walk.index
    if token.type = "thead_open" then return walk.enter 1 (.head raw cells)
    else if token.type = "tbody_open" then return walk.enter 1 (.body raw cells)
    else if token.type = "table_close" then return walk.leaveTable raw cells
    else return walk.enter 1 (.sections raw cells)
  else return walk.leaveTable raw cells

/-- An iteration over the cells of a table head. -/
def headStep (tokens : List BlockToken) (walk : Walk) (raw : String) (cells : TableCells) :
    Except ReadError Walk := do
  let token ← tokenAt tokens walk.index
  if token.type = "thead_close" then return walk.enter 1 (.sections raw cells)
  else if token.type = "th_open" then
    let cell ← textAt tokens (walk.index + 1)
    return walk.enter 3 (.head raw { cells with header := cells.header ++ [cell] })
  else return walk.enter 1 (.head raw cells)

/-- An iteration over the rows of a table body. -/
def bodyStep (tokens : List BlockToken) (walk : Walk) (raw : String) (cells : TableCells) :
    Except ReadError Walk := do
  let token ← tokenAt tokens walk.index
  if token.type = "tbody_close" then return walk.enter 1 (.sections raw cells)
  else if token.type = "tr_open" then return walk.enter 1 (.row raw cells [])
  else return walk.enter 1 (.body raw cells)

/-- An iteration over the cells of a table row. -/
def rowStep (tokens : List BlockToken) (walk : Walk) (raw : String) (cells : TableCells)
    (row : List Cell) : Except ReadError Walk := do
  let token ← tokenAt tokens walk.index
  if token.type = "tr_close" then
    return walk.enter 1 (.body raw { cells with rows := cells.rows ++ [row] })
  else if token.type = "td_open" ∨ token.type = "th_open" then
    let cell ← textAt tokens (walk.index + 1)
    return walk.enter 3 (.row raw cells (row ++ [cell]))
  else return walk.enter 1 (.row raw cells row)

/-- One iteration of the innermost loop. -/
def step (tokens : List BlockToken) (walk : Walk) : Except ReadError Iteration :=
  match walk.loop with
  | .siblings => walk.siblingsStep tokens
  | .sections raw cells => return .goesOn (← walk.sectionsStep tokens raw cells)
  | .head raw cells => return .goesOn (← walk.headStep tokens raw cells)
  | .body raw cells => return .goesOn (← walk.bodyStep tokens raw cells)
  | .row raw cells row => return .goesOn (← walk.rowStep tokens raw cells row)

/-- A walk goes on as another one behind an iteration. -/
def Precedes (tokens : List BlockToken) (walk next : Walk) : Prop :=
  walk.step tokens = .ok (.goesOn next)

/-- The outcome of a walk, when it is found within a number of iterations. -/
def run (tokens : List BlockToken) : Nat → Walk → Option (Except ReadError (List Block × Int))
  | 0, _ => none
  | count + 1, walk =>
      match walk.step tokens with
      | .error error => some (.error error)
      | .ok (.ends blocks index) => some (.ok (blocks, index))
      | .ok (.goesOn next) => run tokens count next

end Walk

/-! ## Progress -/

theorem lt_of_tokenAt {tokens : List BlockToken} {index : Int} {token : BlockToken}
    (found : tokenAt tokens index = .ok token) : index < tokens.length := by
  unfold tokenAt at found
  split at found
  · next here =>
    obtain ⟨place, stands, -⟩ := Option.bind_eq_some_iff.mp here
    unfold Text.position? at stands
    split at stands
    · omega
    · rw [Option.ite_none_right_eq_some] at stands
      omega
  · cases found

/-- The token that closes a container does not stand in front of it, whether it is found or not. -/
theorem le_of_closeIndex {tokens : List BlockToken} {index stop : Int}
    (closed : closeIndex tokens index = .ok stop) : index ≤ stop := by
  cases found : tokensFrom? tokens index with
  | error error =>
      rw [closeIndex, found] at closed
      split at closed <;> cases closed
  | ok rest =>
      cases rest with
      | nil =>
          rw [closeIndex, found] at closed
          split at closed <;> cases closed
      | cons token rest =>
          rw [closeIndex_eq found] at closed
          cases closed
          omega

/-- The number of loops that a table adds: its own ones count once. -/
def Loop.depth : Loop → Nat
  | siblings => 0
  | _ => 1

theorem Loop.depth_le (loop : Loop) : loop.depth ≤ 1 := by
  cases loop <;> simp [depth]

namespace Walk

/-- The number of loops around the innermost one that are not over the siblings of the page; those
of one table count once. -/
def depth (walk : Walk) : Nat :=
  walk.quotes.length + walk.loop.depth

/-- How a walk over some number of tokens goes on: from a greater index, at most one loop deeper,
and beyond the last token out of a loop. -/
structure Advances (count : Nat) (walk next : Walk) : Prop where
  index_lt : walk.index < next.index
  depth_le : next.depth ≤ walk.depth + 1
  depth_lt : count ≤ walk.index → next.depth < walk.depth

section progress

variable {tokens : List BlockToken} {walk next : Walk}

/-- Behind the start of a block, the index is greater, and at most one loop has been entered. -/
theorem start_advances {token : BlockToken} (started : walk.start tokens token = .ok next) :
    walk.index < next.index ∧ next.depth ≤ walk.quotes.length + 1 := by
  have plain (level : OpenLevel) (blocks : List Block) {index : Int} (after : walk.index < index) :
      walk.index < (walk.pass level blocks index).index ∧
        (walk.pass level blocks index).depth ≤ walk.quotes.length + 1 :=
    ⟨after, Nat.le_succ _⟩
  rw [start, bind_eq_ok] at started
  obtain ⟨sibling, -, started⟩ := started
  rw [bind_eq_ok] at started
  obtain ⟨raw, -, started⟩ := started
  unfold startBlock at started
  cases role : token.role with
  | heading =>
      simp only [role, bind_eq_ok] at started
      obtain ⟨inlines, -, level, -, equal⟩ := started
      cases equal
      exact plain _ _ (by omega)
  | paragraph =>
      simp only [role, bind_eq_ok] at started
      obtain ⟨inlines, -, equal⟩ := started
      cases equal
      exact plain _ _ (by omega)
  | list ordered =>
      simp only [role, bind_eq_ok] at started
      obtain ⟨close, found, equal⟩ := started
      cases equal
      exact plain _ _ (Int.lt_add_one_of_le (le_of_closeIndex found))
  | unknownContainer kind =>
      simp only [role, bind_eq_ok] at started
      obtain ⟨close, found, equal⟩ := started
      cases equal
      exact plain _ _ (Int.lt_add_one_of_le (le_of_closeIndex found))
  | table =>
      simp only [role] at started
      cases started
      exact ⟨Int.lt_succ _, Nat.le_refl _⟩
  | quote =>
      simp only [role] at started
      cases spanned : token.span with
      | none =>
          rw [spanned] at started
          cases started
      | some span =>
          simp only [spanned, bind_eq_ok] at started
          obtain ⟨inner, -, equal⟩ := started
          cases equal
          exact ⟨Int.lt_succ _, Nat.le_refl _⟩
  | _ =>
      simp only [role] at started
      cases started
      exact plain _ _ (Int.lt_succ _)

/-- Leaving a level ends the walk or leaves a quote. -/
theorem leave_advances (left : walk.leave = .goesOn next) :
    walk.index < next.index ∧ next.depth < walk.depth := by
  obtain ⟨index, loop, level, quotes⟩ := walk
  cases quotes with
  | nil => cases left
  | cons quote quotes =>
      cases left
      exact ⟨Int.lt_succ index, Nat.lt_of_lt_of_le (Nat.lt_succ_self _) (Nat.le_add_right _ _)⟩

theorem enter_advances {count : Nat} (inside : walk.index < count) (width : Nat) (loop : Loop) :
    Advances count walk (walk.enter (width + 1) loop) where
  index_lt := Int.lt_add_of_pos_right _ (by omega)
  depth_le := by
    have shallow := loop.depth_le
    simp only [depth, enter]
    omega
  depth_lt beyond := by omega

theorem leaveTable_advances {count : Nat} (deep : walk.loop.depth = 1) (raw : String)
    (cells : TableCells) : Advances count walk (walk.leaveTable raw cells) where
  index_lt := Int.lt_succ _
  depth_le := by
    rw [depth, depth, deep]
    exact Nat.le_add_right_of_le (Nat.le_succ _)
  depth_lt _ := by
    rw [depth, depth, deep]
    exact Nat.lt_succ_self _

theorem goesOn_eq_ok {walked : Except ReadError Walk} :
    (do return Iteration.goesOn (← walked)) = (.ok (.goesOn next) : Except ReadError Iteration) ↔
      walked = .ok next := by
  rw [bind_eq_ok]
  constructor
  · rintro ⟨found, stepped, equal⟩
    cases equal
    exact stepped
  · exact fun stepped => ⟨next, stepped, rfl⟩

theorem siblingsStep_advances (stepped : walk.siblingsStep tokens = .ok (.goesOn next)) :
    Advances tokens.length walk next := by
  have left (left : walk.leave = .goesOn next) : Advances tokens.length walk next := by
    obtain ⟨index_lt, depth_lt⟩ := leave_advances left
    exact ⟨index_lt, by omega, fun _ => depth_lt⟩
  unfold siblingsStep at stepped
  split at stepped
  · next inside =>
    rw [bind_eq_ok] at stepped
    obtain ⟨token, -, stepped⟩ := stepped
    split at stepped
    · exact left (Except.ok.inj stepped)
    · obtain ⟨index_lt, depth_le⟩ := start_advances (goesOn_eq_ok.mp stepped)
      have around : walk.quotes.length ≤ walk.depth := Nat.le_add_right _ _
      exact ⟨index_lt, by omega, by omega⟩
  · exact left (Except.ok.inj stepped)

theorem sectionsStep_advances {raw : String} {cells : TableCells} (deep : walk.loop.depth = 1)
    (stepped : walk.sectionsStep tokens raw cells = .ok next) :
    Advances tokens.length walk next := by
  unfold sectionsStep at stepped
  split at stepped
  · next inside =>
    rw [bind_eq_ok] at stepped
    obtain ⟨token, -, stepped⟩ := stepped
    split at stepped
    · cases stepped
      exact enter_advances inside 0 _
    · split at stepped
      · cases stepped
        exact enter_advances inside 0 _
      · split at stepped
        · cases stepped
          exact leaveTable_advances deep raw cells
        · cases stepped
          exact enter_advances inside 0 _
  · cases stepped
    exact leaveTable_advances deep raw cells

theorem headStep_advances {raw : String} {cells : TableCells}
    (stepped : walk.headStep tokens raw cells = .ok next) : Advances tokens.length walk next := by
  rw [headStep, bind_eq_ok] at stepped
  obtain ⟨token, found, stepped⟩ := stepped
  have inside := lt_of_tokenAt found
  split at stepped
  · cases stepped
    exact enter_advances inside 0 _
  · split at stepped
    · rw [bind_eq_ok] at stepped
      obtain ⟨cell, -, equal⟩ := stepped
      cases equal
      exact enter_advances inside 2 _
    · cases stepped
      exact enter_advances inside 0 _

theorem bodyStep_advances {raw : String} {cells : TableCells}
    (stepped : walk.bodyStep tokens raw cells = .ok next) : Advances tokens.length walk next := by
  rw [bodyStep, bind_eq_ok] at stepped
  obtain ⟨token, found, stepped⟩ := stepped
  have inside := lt_of_tokenAt found
  split at stepped
  · cases stepped
    exact enter_advances inside 0 _
  · split at stepped
    · cases stepped
      exact enter_advances inside 0 _
    · cases stepped
      exact enter_advances inside 0 _

theorem rowStep_advances {raw : String} {cells : TableCells} {row : List Cell}
    (stepped : walk.rowStep tokens raw cells row = .ok next) :
    Advances tokens.length walk next := by
  rw [rowStep, bind_eq_ok] at stepped
  obtain ⟨token, found, stepped⟩ := stepped
  have inside := lt_of_tokenAt found
  split at stepped
  · cases stepped
    exact enter_advances inside 0 _
  · split at stepped
    · rw [bind_eq_ok] at stepped
      obtain ⟨cell, -, equal⟩ := stepped
      cases equal
      exact enter_advances inside 2 _
    · cases stepped
      exact enter_advances inside 0 _

/-- Whatever loop a walk is in, every iteration that goes on advances. -/
theorem step_advances (stepped : walk.step tokens = .ok (.goesOn next)) :
    Advances tokens.length walk next := by
  unfold step at stepped
  cases loop : walk.loop with
  | siblings =>
      rw [loop] at stepped
      exact siblingsStep_advances stepped
  | sections raw cells =>
      rw [loop] at stepped
      exact sectionsStep_advances (by rw [loop]; rfl) (goesOn_eq_ok.mp stepped)
  | head raw cells =>
      rw [loop] at stepped
      exact headStep_advances (goesOn_eq_ok.mp stepped)
  | body raw cells =>
      rw [loop] at stepped
      exact bodyStep_advances (goesOn_eq_ok.mp stepped)
  | row raw cells row =>
      rw [loop] at stepped
      exact rowStep_advances (goesOn_eq_ok.mp stepped)

/-- Every iteration starts at a greater index than those before it, whatever loops they are in. -/
theorem index_lt_of_precedes (later : Relation.TransGen (Precedes tokens) walk next) :
    walk.index < next.index := by
  induction later with
  | single stepped => exact (step_advances stepped).index_lt
  | tail _ stepped induction => exact Int.lt_trans induction (step_advances stepped).index_lt

/-- At a token that is not of a stop type, an iteration over siblings starts the block of the
token. -/
theorem siblingsStep_of_starts {token : BlockToken} (here : tokenAt tokens walk.index = .ok token)
    (starts : token.type ∉ walk.level.stops) :
    walk.siblingsStep tokens = (do return .goesOn (← walk.start tokens token)) := by
  rw [siblingsStep, if_pos (lt_of_tokenAt here), here, ok_bind, if_neg (by simpa using starts)]

/-- A walk ends where its last iteration starts. -/
theorem step_ends {blocks : List Block} {stop : Int}
    (stepped : walk.step tokens = .ok (.ends blocks stop)) : stop = walk.index := by
  have left (left : walk.leave = .ends blocks stop) : stop = walk.index := by
    unfold leave at left
    split at left <;> cases left
    rfl
  cases loop : walk.loop with
  | siblings =>
      simp only [step, loop, siblingsStep] at stepped
      split at stepped
      · rw [bind_eq_ok] at stepped
        obtain ⟨token, -, stepped⟩ := stepped
        split at stepped
        · exact left (Except.ok.inj stepped)
        · rw [bind_eq_ok] at stepped
          obtain ⟨next, -, equal⟩ := stepped
          cases equal
      · exact left (Except.ok.inj stepped)
  | _ =>
      simp only [step, loop, bind_eq_ok] at stepped
      obtain ⟨next, -, equal⟩ := stepped
      cases equal

end progress

end Walk

end CardPress
