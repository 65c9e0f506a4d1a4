import CardPress.Proofs.Document.BlockSteps
import CardPress.Proofs.Document.Walk

/-!
# Progress of reading

Reading tokens as blocks comes to an end, whatever the tokens are.  The central theorem follows the
walk that reading is: every iteration goes on from a greater index, so that there are at most two
of them for each token and a last one, and what the walk ends with is what is read.  An index that
is given back is never in front of the first one, and it is behind it when the token there is not of
a stop type.
-/

namespace CardPress

/-! ## Tokens at an index -/

section tokens

variable {tokens rest : List BlockToken} {token : BlockToken} {index : Int}

theorem tokenAt_of_cons (found : tokensFrom? tokens index = .ok (token :: rest)) :
    tokenAt tokens index = .ok token := by
  rw [tokenAt, ← head?_of_tokensFrom? found]
  rfl

theorem tokenAt_of_nil (found : tokensFrom? tokens index = .ok []) :
    tokenAt tokens index = .error .missing := by
  rw [tokenAt, ← head?_of_tokensFrom? found]
  rfl

theorem not_lt_of_nil (found : tokensFrom? tokens index = .ok []) : ¬ index < tokens.length :=
  Int.not_lt.mpr ((tokensFrom?_eq_nil_iff found).mp rfl)

theorem textAt_of_cons (found : tokensFrom? tokens index = .ok (token :: rest)) :
    textAt tokens (index + 1) = contentOf rest := by
  rw [textAt, tokenAt, ← head?_of_tokensFrom? (tokensFrom?_succ found)]
  cases rest <;> rfl

end tokens

namespace Walk

/-! ## What is ahead of a walk -/

/-- What the quotes around a level come to behind its blocks. -/
def closeQuotes : List OpenQuote → List Block → Int → List BlockToken →
    Except ReadError (List Block × Int)
  | [], found, index, _ => .ok (found, index)
  | quote :: quotes, found, index, rest => do
      let level := quote.around.add [.quote found quote.raw]
      let (blocks, count) ← readBlocks level.stops level.lines level.sibling (rest.drop 1)
      closeQuotes quotes (level.found ++ blocks) (index + 1 + count) ((rest.drop 1).drop count)

/-- What a walk over siblings comes to. -/
def siblingsAhead (walk : Walk) (rest : List BlockToken) :
    Except ReadError (List Block × Int) := do
  let level := walk.level
  let (blocks, count) ← readBlocks level.stops level.lines level.sibling rest
  closeQuotes walk.quotes (level.found ++ blocks) (walk.index + count) (rest.drop count)

/-- What a walk over the sections of a table comes to. -/
def sectionsAhead (walk : Walk) (raw : String) (cells : TableCells) (rest : List BlockToken) :
    Except ReadError (List Block × Int) := do
  let (more, width) ← readTable rest
  let table := Block.table (cells.header ++ more.header) (cells.rows ++ more.rows) raw
  (walk.pass walk.level [table] (walk.index + width)).siblingsAhead (rest.drop width)

/-- What a walk over the cells of a table head comes to. -/
def headAhead (walk : Walk) (raw : String) (cells : TableCells) (rest : List BlockToken) :
    Except ReadError (List Block × Int) := do
  let (header, width) ← readHead rest
  let cells := { cells with header := cells.header ++ header }
  (walk.enter width (.sections raw cells)).sectionsAhead raw cells (rest.drop width)

/-- What a walk over the rows of a table body comes to. -/
def bodyAhead (walk : Walk) (raw : String) (cells : TableCells) (rest : List BlockToken) :
    Except ReadError (List Block × Int) := do
  let (rows, width) ← readRows rest
  let cells := { cells with rows := cells.rows ++ rows }
  (walk.enter width (.sections raw cells)).sectionsAhead raw cells (rest.drop width)

/-- What a walk over the cells of a table row comes to. -/
def rowAhead (walk : Walk) (raw : String) (cells : TableCells) (row : List Cell)
    (rest : List BlockToken) : Except ReadError (List Block × Int) := do
  let (others, width) ← readRow rest
  let cells := { cells with rows := cells.rows ++ [row ++ others] }
  (walk.enter width (.body raw cells)).bodyAhead raw cells (rest.drop width)

/-- What a walk comes to when it goes on with some tokens. -/
def ahead (walk : Walk) (rest : List BlockToken) : Except ReadError (List Block × Int) :=
  match walk.loop with
  | .siblings => walk.siblingsAhead rest
  | .sections raw cells => walk.sectionsAhead raw cells rest
  | .head raw cells => walk.headAhead raw cells rest
  | .body raw cells => walk.bodyAhead raw cells rest
  | .row raw cells row => walk.rowAhead raw cells row rest

/-- What a walk comes to when it goes on from its index. -/
def outcome (tokens : List BlockToken) (walk : Walk) : Except ReadError (List Block × Int) := do
  walk.ahead (← tokensFrom? tokens walk.index)

/-- What an iteration comes to when the walk goes on behind it. -/
def endOf (tokens : List BlockToken) : Iteration → Except ReadError (List Block × Int)
  | .goesOn walk => walk.outcome tokens
  | .ends blocks index => .ok (blocks, index)

@[simp]
theorem loop_enter (walk : Walk) (count : Nat) (loop : Loop) :
    (walk.enter count loop).loop = loop :=
  rfl

@[simp]
theorem enter_enter (walk : Walk) (first second : Nat) (between loop : Loop) :
    (walk.enter first between).enter second loop = walk.enter (first + second) loop := by
  simp [enter, Int.add_assoc]

@[simp]
theorem pass_enter (walk : Walk) (count : Nat) (loop : Loop) (level : OpenLevel)
    (blocks : List Block) (index : Int) :
    (walk.enter count loop).pass level blocks index = walk.pass level blocks index :=
  rfl

@[simp]
theorem level_enter (walk : Walk) (count : Nat) (loop : Loop) :
    (walk.enter count loop).level = walk.level :=
  rfl

@[simp]
theorem index_enter (walk : Walk) (count : Nat) (loop : Loop) :
    (walk.enter count loop).index = walk.index + count :=
  rfl

/-! ## Iterations -/

section iterations

variable {tokens rest : List BlockToken} {token : BlockToken} {walk : Walk}

theorem outcome_of_tokensFrom? (found : tokensFrom? tokens walk.index = .ok rest) :
    walk.outcome tokens = walk.ahead rest := by
  rw [outcome, found]
  rfl

theorem outcome_enter (found : tokensFrom? tokens walk.index = .ok rest) (count : Nat)
    (loop : Loop) :
    (walk.enter count loop).outcome tokens = (walk.enter count loop).ahead (rest.drop count) :=
  outcome_of_tokensFrom? (tokensFrom?_add found count)

theorem rowAhead_eq (found : tokensFrom? tokens walk.index = .ok rest) (raw : String)
    (cells : TableCells) (row : List Cell) :
    walk.rowAhead raw cells row rest = (walk.rowStep tokens raw cells row >>= outcome tokens) := by
  cases rest with
  | nil =>
      rw [rowAhead, readRow, rowStep, tokenAt_of_nil found]
      simp [error_bind]
  | cons token rest =>
      rw [rowAhead, readRow, rowStep, tokenAt_of_cons found, textAt_of_cons found]
      by_cases ends : token.type = "tr_close"
      · simp [ok_bind, ends, outcome_enter found, ahead]
      by_cases opens : token.type = "td_open" ∨ token.type = "th_open"
      · simp [ok_bind, ends, opens, outcome_enter found, ahead, rowAhead, Nat.add_comm]
      · simp [ok_bind, ends, opens, outcome_enter found, ahead, rowAhead, Nat.add_comm]

theorem bodyAhead_eq (found : tokensFrom? tokens walk.index = .ok rest) (raw : String)
    (cells : TableCells) :
    walk.bodyAhead raw cells rest = (walk.bodyStep tokens raw cells >>= outcome tokens) := by
  cases rest with
  | nil =>
      rw [bodyAhead, readRows, bodyStep, tokenAt_of_nil found]
      simp [error_bind]
  | cons token rest =>
      rw [bodyAhead, readRows, bodyStep, tokenAt_of_cons found]
      by_cases ends : token.type = "tbody_close"
      · simp [ok_bind, ends, outcome_enter found, ahead]
      by_cases opens : token.type = "tr_open"
      · simp [ok_bind, opens, outcome_enter found, ahead, rowAhead, bodyAhead, Nat.add_comm,
          ← Nat.add_assoc]
      · simp [ok_bind, ends, opens, outcome_enter found, ahead, bodyAhead, Nat.add_comm]

theorem headAhead_eq (found : tokensFrom? tokens walk.index = .ok rest) (raw : String)
    (cells : TableCells) :
    walk.headAhead raw cells rest = (walk.headStep tokens raw cells >>= outcome tokens) := by
  cases rest with
  | nil =>
      rw [headAhead, readHead, headStep, tokenAt_of_nil found]
      simp [error_bind]
  | cons token rest =>
      rw [headAhead, readHead, headStep, tokenAt_of_cons found, textAt_of_cons found]
      by_cases ends : token.type = "thead_close"
      · simp [ok_bind, ends, outcome_enter found, ahead]
      by_cases opens : token.type = "th_open"
      · simp [ok_bind, opens, outcome_enter found, ahead, headAhead, Nat.add_comm]
      · simp [ok_bind, ends, opens, outcome_enter found, ahead, headAhead, Nat.add_comm]

theorem sectionsAhead_eq (found : tokensFrom? tokens walk.index = .ok rest) (raw : String)
    (cells : TableCells) :
    walk.sectionsAhead raw cells rest =
      (walk.sectionsStep tokens raw cells >>= outcome tokens) := by
  have left : (walk.leaveTable raw cells).outcome tokens =
      (walk.leaveTable raw cells).siblingsAhead (rest.drop 1) :=
    outcome_of_tokensFrom? (tokensFrom?_add found 1)
  rw [leaveTable] at left
  cases rest with
  | nil =>
      rw [sectionsAhead, readTable, sectionsStep, if_neg (not_lt_of_nil found)]
      simp [ok_bind, leaveTable, left]
  | cons token rest =>
      have inside := lt_of_tokenAt (tokenAt_of_cons found)
      rw [sectionsAhead, readTable, sectionsStep, if_pos inside, tokenAt_of_cons found]
      by_cases head : token.type = "thead_open"
      · simp [ok_bind, head, outcome_enter found, ahead, headAhead, sectionsAhead, Int.add_comm,
          ← Int.add_assoc, Nat.add_comm]
      by_cases body : token.type = "tbody_open"
      · simp [ok_bind, body, outcome_enter found, ahead, bodyAhead, sectionsAhead, Int.add_comm,
          ← Int.add_assoc, Nat.add_comm]
      by_cases ends : token.type = "table_close"
      · simp [ok_bind, ends, leaveTable, left]
      · simp [ok_bind, head, body, ends, outcome_enter found, ahead, sectionsAhead, Int.add_comm,
          ← Int.add_assoc]

/-- Leaving a level comes to what closing the quotes around it does. -/
theorem endOf_leave (found : tokensFrom? tokens walk.index = .ok rest) :
    endOf tokens walk.leave = closeQuotes walk.quotes walk.level.found walk.index rest := by
  unfold leave
  split
  · next outermost => rw [outermost]; rfl
  · next quote quotes around =>
    rw [around]
    have next : tokensFrom? tokens (walk.index + 1) = .ok (rest.drop 1) := tokensFrom?_add found 1
    rw [endOf, outcome_of_tokensFrom? next]
    rfl

/-- What a walk comes to behind the block of a token: the block belongs to its level, and the walk
goes on over the siblings behind it. -/
def behind (walk : Walk) (level : OpenLevel) (rest : List BlockToken) (read : Option Block × Nat) :
    Except ReadError (List Block × Int) :=
  (walk.pass level read.1.toList (walk.index + (read.2 + 1 : Nat))).siblingsAhead
    (rest.drop read.2)

/-- Siblings go on behind the block of a token. -/
theorem siblingsAhead_cons (starts : token.type ∉ walk.level.stops) :
    walk.siblingsAhead (token :: rest) =
      (do
        let sibling ← walk.level.sibling.after walk.level.lines token
        let gap := walk.level.sibling.gap walk.level.lines token
        readBlock walk.level.lines token rest >>=
          walk.behind { walk.level.add gap with sibling } rest) := by
  rw [siblingsAhead, readBlocks_cons starts]
  simp only [bind_assoc]
  congr 1
  funext sibling
  congr 1
  funext read
  obtain ⟨block, width⟩ := read
  simp [behind, siblingsAhead, pass, OpenLevel.add, Int.add_comm, ← Int.add_assoc, Nat.add_comm]

section start

variable (found : tokensFrom? tokens walk.index = .ok (token :: rest)) (level : OpenLevel)
  (raw : String)

include found

/-- A walk that has gone past a block comes to what is behind it. -/
theorem outcome_pass (block : Option Block) (width : Nat) {index : Int}
    (stands : index = walk.index + (width + 1 : Nat)) :
    (walk.pass level block.toList index).outcome tokens =
      walk.behind level rest (block, width) := by
  rw [stands]
  exact outcome_of_tokensFrom? (tokensFrom?_add found (width + 1))

theorem startBlock_heading (role : token.role = .heading) :
    walk.startBlock tokens token level raw >>= outcome tokens =
      (do
        let inlines ← contentOf rest
        let depth ← headingLevel token.tag
        walk.behind level rest (some (.heading depth inlines raw), 2)) := by
  rw [startBlock, role]
  simp only [bind_assoc, pure_bind, textAt_of_cons found]
  congr 1
  funext inlines
  congr 1
  funext depth
  exact outcome_pass found level (some (.heading depth inlines raw)) 2 (by omega)

theorem startBlock_paragraph (role : token.role = .paragraph) :
    walk.startBlock tokens token level raw >>= outcome tokens =
      (do
        let inlines ← contentOf rest
        walk.behind level rest (some (paragraphBlock inlines raw), 2)) := by
  rw [startBlock, role]
  simp only [bind_assoc, pure_bind, textAt_of_cons found]
  congr 1
  funext inlines
  exact outcome_pass found level (some (paragraphBlock inlines raw)) 2 (by omega)

theorem startBlock_list {ordered : Bool} (role : token.role = .list ordered) :
    walk.startBlock tokens token level raw >>= outcome tokens =
      walk.behind level rest (some (.list ordered raw), closeDistance token.level rest) := by
  rw [startBlock, role, closeIndex_eq found]
  simp only [pure_bind, ok_bind]
  exact outcome_pass found level (some (.list ordered raw)) _ (by omega)

theorem startBlock_unknownContainer {kind : String} (role : token.role = .unknownContainer kind) :
    walk.startBlock tokens token level raw >>= outcome tokens =
      walk.behind level rest (some (.unknown kind raw), closeDistance token.level rest) := by
  rw [startBlock, role, closeIndex_eq found]
  simp only [pure_bind, ok_bind]
  exact outcome_pass found level (some (.unknown kind raw)) _ (by omega)

theorem startBlock_table (role : token.role = .table) :
    walk.startBlock tokens token level raw >>= outcome tokens =
      (do
        let (cells, width) ← readTable rest
        walk.behind level rest (some (.table cells.header cells.rows raw), width)) := by
  rw [startBlock, role]
  simp only [pure_bind]
  rw [outcome_of_tokensFrom? (tokensFrom?_add found 1)]
  simp only [ahead, sectionsAhead]
  congr 1
  funext read
  obtain ⟨cells, width⟩ := read
  simp [behind, pass, OpenLevel.add, Int.add_assoc, Int.add_comm 1]

theorem startBlock_quote (role : token.role = .quote) {span : Int × Int}
    (mapped : token.span = some span) :
    walk.startBlock tokens token level raw >>= outcome tokens =
      (do
        let inner ← dropQuoteMarkers level.lines span
        let (children, width) ← readBlocks ["blockquote_close"] inner {} rest
        walk.behind level rest (some (.quote children raw), width + 1)) := by
  simp only [startBlock, role, mapped, bind_assoc, pure_bind]
  congr 1
  funext inner
  rw [outcome_of_tokensFrom? (tokensFrom?_add found 1)]
  simp only [ahead, siblingsAhead]
  congr 1
  funext read
  obtain ⟨children, count⟩ := read
  simp [behind, siblingsAhead, closeQuotes, pass, OpenLevel.add, ← Int.add_assoc,
    Int.add_right_comm _ 1]

/-- A block that has been started comes to what is read behind it. -/
theorem readBlock_startBlock :
    readBlock level.lines token rest >>= walk.behind level rest =
      (do
        let raw ← rawText level.lines token.span
        walk.startBlock tokens token level raw >>= outcome tokens) := by
  simp only [readBlock, bind_assoc]
  congr 1
  funext raw
  cases role : token.role with
  | heading => simp only [bind_assoc, pure_bind, startBlock_heading found level raw role]
  | paragraph => simp only [bind_assoc, pure_bind, startBlock_paragraph found level raw role]
  | list ordered => simp only [pure_bind, startBlock_list found level raw role]
  | unknownContainer kind =>
      simp only [pure_bind, startBlock_unknownContainer found level raw role]
  | table => simp only [bind_assoc, pure_bind, startBlock_table found level raw role]
  | quote =>
      cases mapped : token.span with
      | none =>
          simp only [startBlock, role, mapped]
          rfl
      | some span =>
          simp only [bind_assoc, pure_bind, startBlock_quote found level raw role mapped]
  | _ =>
      simp only [startBlock, role, pure_bind]
      exact (outcome_pass found level _ 0 (by omega)).symm

end start

/-- An iteration over siblings comes to what the walk does. -/
theorem siblingsAhead_eq (found : tokensFrom? tokens walk.index = .ok rest) :
    walk.siblingsAhead rest = (walk.siblingsStep tokens >>= endOf tokens) := by
  have left (halts : Halts walk.level.stops rest) :
      walk.siblingsAhead rest = endOf tokens walk.leave := by
    rw [siblingsAhead, readBlocks_of_halts halts, endOf_leave found]
    simp [ok_bind]
  cases rest with
  | nil =>
      rw [siblingsStep, if_neg (not_lt_of_nil found)]
      exact left (by simp [Halts])
  | cons token rest =>
      have here := tokenAt_of_cons found
      by_cases halts : token.type ∈ walk.level.stops
      · rw [left (by simpa [Halts] using halts), siblingsStep, if_pos (lt_of_tokenAt here), here]
        simp [ok_bind, halts]
      · rw [siblingsAhead_cons halts, siblingsStep_of_starts here halts, start]
        simp only [bind_assoc, pure_bind, endOf]
        congr 1
        funext sibling
        let gap := walk.level.sibling.gap walk.level.lines token
        exact readBlock_startBlock found { walk.level.add gap with sibling }

/-- An iteration comes to what the walk does. -/
theorem outcome_eq (tokens : List BlockToken) (walk : Walk) :
    walk.outcome tokens = (walk.step tokens >>= endOf tokens) := by
  cases found : tokensFrom? tokens walk.index with
  | error error =>
      obtain ⟨rfl, absent, inside⟩ := at?_of_tokensFrom?_error found
      have missing : tokenAt tokens walk.index = .error .missing := by rw [tokenAt, absent]
      rw [outcome, found, error_bind, step]
      cases walk.loop with
      | siblings => simp [siblingsStep, inside, missing, error_bind]
      | sections => simp [sectionsStep, inside, missing, error_bind]
      | head => simp [headStep, missing, error_bind]
      | body => simp [bodyStep, missing, error_bind]
      | row => simp [rowStep, missing, error_bind]
  | ok rest =>
      rw [outcome_of_tokensFrom? found, ahead, step]
      cases walk.loop with
      | siblings => exact siblingsAhead_eq found
      | sections raw cells => simp [sectionsAhead_eq found, endOf]
      | head raw cells => simp [headAhead_eq found, endOf]
      | body raw cells => simp [bodyAhead_eq found, endOf]
      | row raw cells row => simp [rowAhead_eq found, endOf]

end iterations

/-! ## Runs -/

/-- A bound on the iterations that are ahead: each token behind the index may enter a loop, and each
loop is left once. -/
def remaining (tokens : List BlockToken) (walk : Walk) : Nat :=
  2 * (tokens.length - walk.index).toNat + walk.depth

section runs

variable {tokens : List BlockToken} {walk next : Walk}

theorem remaining_lt (stepped : walk.step tokens = .ok (.goesOn next)) :
    next.remaining tokens < walk.remaining tokens := by
  obtain ⟨index_lt, depth_le, depth_lt⟩ := step_advances stepped
  unfold remaining
  by_cases inside : walk.index < tokens.length
  · omega
  · have left := depth_lt (by omega)
    omega

/-- What is ahead of a walk is found when there are enough iterations. -/
theorem run_eq {count : Nat} (enough : walk.remaining tokens < count) :
    run tokens count walk = some (walk.outcome tokens) := by
  induction count generalizing walk with
  | zero => omega
  | succ count induction =>
      rw [run, outcome_eq]
      cases stepped : walk.step tokens with
      | error error => rfl
      | ok iteration =>
          cases iteration with
          | ends blocks index => rfl
          | goesOn next =>
              have less := remaining_lt stepped
              exact induction (by omega)

/-- No walk ends in front of its index. -/
theorem run_le {count : Nat} {blocks : List Block} {stop : Int}
    (reached : run tokens count walk = some (.ok (blocks, stop))) : walk.index ≤ stop := by
  induction count generalizing walk with
  | zero => cases reached
  | succ count induction =>
      rw [run] at reached
      split at reached
      · cases reached
      · next ended =>
        cases reached
        exact Int.le_of_eq (step_ends ended).symm
      · next next stepped =>
        exact Int.le_of_lt (Int.lt_of_lt_of_le (step_advances stepped).index_lt (induction reached))

/-- A walk ends behind its index when it starts a block there. -/
theorem run_lt {count : Nat} {token : BlockToken} {blocks : List Block} {stop : Int}
    (siblings : walk.loop = .siblings) (here : tokenAt tokens walk.index = .ok token)
    (starts : token.type ∉ walk.level.stops)
    (reached : run tokens count walk = some (.ok (blocks, stop))) : walk.index < stop := by
  cases count with
  | zero => cases reached
  | succ count =>
      rw [run, step, siblings] at reached
      simp only [siblingsStep_of_starts here starts] at reached
      cases started : walk.start tokens token with
      | error error =>
          rw [started] at reached
          cases reached
      | ok next =>
          rw [started] at reached
          exact Int.lt_of_lt_of_le (start_advances started).1 (run_le reached)

end runs

end Walk

/-! ## Reading -/

theorem Walk.outcome_entrance (stops lines : List String) (tokens : List BlockToken)
    (index : Int) :
    (Walk.entrance stops lines index).outcome tokens =
      Block.ofTokens stops lines tokens index :=
  rfl

/-- Reading ends: the walk that it is goes on from a greater index with every iteration, and comes
to its end within two iterations for each token and a last one; it fails, or its index is then not
in front of the first one, and behind it when a token that is not of a stop type stands there. -/
theorem Block.ofTokens_progress (stops lines : List String) (tokens : List BlockToken)
    (index : Int) :
    (∀ walk later, Relation.TransGen (Walk.Precedes tokens) walk later →
        walk.index < later.index) ∧
      Walk.run tokens (2 * (tokens.length - index).toNat + 1) (.entrance stops lines index) =
        some (Block.ofTokens stops lines tokens index) ∧
      ((∃ error, Block.ofTokens stops lines tokens index = .error error) ∨
        ∃ blocks stop, Block.ofTokens stops lines tokens index = .ok (blocks, stop) ∧
          index ≤ stop ∧
          ∀ token, Text.at? tokens index = some token → token.type ∉ stops → index < stop) := by
  have found : Walk.run tokens (2 * (tokens.length - index).toNat + 1)
      (.entrance stops lines index) = some (Block.ofTokens stops lines tokens index) := by
    rw [← Walk.outcome_entrance]
    exact Walk.run_eq (Nat.lt_succ_self _)
  refine ⟨fun walk later => Walk.index_lt_of_precedes, found, ?_⟩
  cases read : Block.ofTokens stops lines tokens index with
  | error error => exact .inl ⟨error, rfl⟩
  | ok result =>
      obtain ⟨blocks, stop⟩ := result
      rw [read] at found
      refine .inr ⟨blocks, stop, rfl, Walk.run_le found, fun token here starts => ?_⟩
      have stands : tokenAt tokens index = .ok token := by rw [tokenAt, here]
      exact Walk.run_lt rfl stands starts found

/-- A quote that is not closed. -/
def unclosedQuote : List BlockToken :=
  [{ type := "blockquote_open", nesting := 1, span := some (0, 1) },
    { type := "html_block", content := "a", span := some (0, 1) }]

/-- Reading a quote that is not closed ends behind the last token. -/
theorem Block.ofTokens_progress_unclosedQuote :
    Walk.run unclosedQuote 5 (.entrance [] ["> a"] 0) =
      some (.ok ([.quote [.html "a"] "> a"], 3)) := by
  have read : Block.ofTokens [] ["> a"] unclosedQuote 0 =
      .ok ([.quote [.html "a"] "> a"], 3) := by
    with_unfolding_all rfl
  rw [← read]
  exact (Block.ofTokens_progress [] ["> a"] unclosedQuote 0).2.1

end CardPress
