import CardPress.Proofs.Document.BlockSteps
import CardPress.Proofs.Render.Layout
import Mathlib.Data.List.Chain

/-!
# Places of blank lines

Of any tokens, well nested or not, blank lines are read between other blocks only, and never behind
a thematic break.  The central theorem draws the conclusion for a card: each blank line of a page
finds the element in front of it, on the page and inside every quote, so that no empty container is
ever made for one, and a body has one element for each block that is neither a blank line nor a
thematic break.
-/

namespace CardPress

/-! ## Settled blocks -/

namespace Block

/-- Whether a block has an element of its own. -/
def isContent (block : Block) : Bool :=
  !block.isSpace && !block.isRule

theorem isRule_of_isSpace {block : Block} (blank : block.isSpace) : block.isRule = false := by
  cases block with
  | space raw => rfl
  | _ => cases blank

/-- Blank lines stand between other blocks, and not behind a thematic break. -/
structure Settled (blocks : List Block) : Prop where
  head : ∀ block ∈ blocks.head?, block.isSpace = false
  last : ∀ block ∈ blocks.getLast?, block.isSpace = false
  chain : blocks.IsChain fun first second => first.isRule → second.isSpace = false

/-- Blocks are settled, and so are the blocks inside each quote at any depth. -/
def AllSettled (blocks : List Block) : Prop :=
  ∀ path siblings, Block.level? blocks path = some siblings → Settled siblings

/-- A level inside blocks is a level of the blocks of one of their quotes. -/
theorem level?_cons {blocks siblings : List Block} {index : Nat} {path : List Nat}
    (reached : level? blocks (index :: path) = some siblings) :
    ∃ inner raw, quote inner raw ∈ blocks ∧ level? inner path = some siblings := by
  rw [level?] at reached
  split at reached
  · rename_i inner raw found
    exact ⟨inner, raw, List.mem_of_mem_filter (List.mem_of_getElem? found), reached⟩
  · cases reached

theorem Settled.all {blocks : List Block} (settled : Settled blocks)
    (quotes : ∀ inner raw, quote inner raw ∈ blocks → AllSettled inner) : AllSettled blocks := by
  intro path siblings reached
  cases path with
  | nil =>
      obtain rfl := Option.some.inj reached
      exact settled
  | cons index path =>
      obtain ⟨inner, raw, member, inside⟩ := level?_cons reached
      exact quotes inner raw member path siblings inside

end Block

/-- Tokens of three nestings, of which closing ones cover no lines, but thematic breaks do. -/
structure BlockToken.Placed (token : BlockToken) : Prop where
  nesting : token.nesting = -1 ∨ token.nesting = 0 ∨ token.nesting = 1
  closing : token.nesting = -1 → token.span = none
  rule : token.type = "hr" → token.span.isSome

namespace BlockToken

theorem nesting_of_closing {token : BlockToken} (role : token.role = .closing) :
    token.nesting ≠ 1 ∧ token.nesting ≠ 0 := by
  unfold BlockToken.role at role
  split at role <;> grind

theorem type_of_rule {token : BlockToken} (role : token.role = .rule) : token.type = "hr" := by
  unfold BlockToken.role at role
  split at role <;> grind

theorem Placed.span_of_closing {token : BlockToken} (placed : token.Placed)
    (passed : token.role = .closing) : token.span = none := by
  have shape := placed.nesting
  obtain ⟨opens, alone⟩ := nesting_of_closing passed
  exact placed.closing (by omega)

end BlockToken

/-! ## Reading settled blocks -/

/-- What is read behind a sibling.  Blank lines come first only behind a sibling that covers lines
and is no thematic break. -/
structure SettledBehind (sibling : Sibling) (blocks : List Block) : Prop where
  head : sibling.stop = none ∨ sibling.isRule = true →
    ∀ block ∈ blocks.head?, block.isSpace = false
  last : ∀ block ∈ blocks.getLast?, block.isSpace = false
  chain : blocks.IsChain fun first second => first.isRule → second.isSpace = false
  quotes : ∀ inner raw, .quote inner raw ∈ blocks → Block.AllSettled inner

theorem Sibling.gap_of_none {lines : List String} (sibling : Sibling) {token : BlockToken}
    (uncovered : token.span = none) : sibling.gap lines token = [] := by
  rw [gap, uncovered]

theorem Sibling.gap_of_settled (lines : List String) {sibling : Sibling} (token : BlockToken)
    (settled : sibling.stop = none ∨ sibling.isRule = true) : sibling.gap lines token = [] := by
  unfold gap
  split
  · rename_i stop _ found
    obtain none | rule := settled
    · rw [none] at found
      cases found
    · rw [if_pos rule]
  · rfl

/-- Behind a thematic break that covers lines, no blank line counts. -/
theorem Sibling.isRule_after {lines : List String} {sibling next : Sibling} {token : BlockToken}
    (rule : token.type = "hr") (covered : token.span.isSome)
    (known : sibling.after lines token = .ok next) : next.isRule = true := by
  obtain ⟨span, spanned⟩ := Option.isSome_iff_exists.mp covered
  rw [after, spanned] at known
  simp only [bind_eq_ok] at known
  obtain ⟨stop, -, equal⟩ := known
  cases equal
  simp [rule]

theorem SettledBehind.nil (sibling : Sibling) : SettledBehind sibling [] :=
  ⟨by simp, by simp, .nil, by simp⟩

theorem SettledBehind.all {blocks : List Block} (behind : SettledBehind {} blocks) :
    Block.AllSettled blocks :=
  Block.Settled.all ⟨behind.head (.inl rfl), behind.last, behind.chain⟩ behind.quotes

/-- A block joins the settled ones behind it, together with the blank lines in front of it. -/
theorem SettledBehind.cons {sibling next : Sibling} {gap later : List Block} {block : Block}
    (blank : ∀ space ∈ gap, space.isSpace)
    (closed : sibling.stop = none ∨ sibling.isRule = true → gap = [])
    (filled : block.isSpace = false) (rule : block.isRule → next.isRule = true)
    (quote : ∀ inner raw, block = .quote inner raw → Block.AllSettled inner)
    (behind : SettledBehind next later) : SettledBehind sibling (gap ++ block :: later) := by
  have no_rule : ∀ space ∈ gap, space.isRule = false :=
    fun space member => Block.isRule_of_isSpace (blank space member)
  constructor
  case head =>
    intro settled
    rw [closed settled]
    simpa using filled
  case last =>
    rw [List.getLast?_append_cons]
    intro last final
    cases later with
    | nil =>
        obtain rfl : block = last := by simpa using final
        exact filled
    | cons second later =>
        rw [List.getLast?_cons_cons] at final
        exact behind.last last final
  case chain =>
    have inside : gap.IsChain fun first second => first.isRule → second.isSpace = false := by
      refine List.Pairwise.isChain (List.pairwise_of_forall_mem_list ?_)
      intro first member second _ isRule
      rw [no_rule first member] at isRule
      cases isRule
    have back : (block :: later).IsChain fun first second =>
        first.isRule → second.isSpace = false := by
      refine List.isChain_cons.mpr ⟨?_, behind.chain⟩
      intro second next_head isRule
      exact behind.head (.inr (rule isRule)) second next_head
    refine List.isChain_append.mpr ⟨inside, back, ?_⟩
    intro first final second _ isRule
    rw [no_rule first (List.mem_of_mem_getLast? final)] at isRule
    cases isRule
  case quotes =>
    intro inner raw member
    obtain front | here | later := List.mem_append.mp member |>.imp_right List.mem_cons.mp
    · cases blank _ front
    · exact quote inner raw here.symm
    · exact behind.quotes inner raw later

/-- Whatever tokens are read, their blocks are settled. -/
theorem readBlocks_settled {stops lines : List String} {sibling : Sibling}
    {tokens : List BlockToken} {blocks : List Block} {count : Nat}
    (placed : ∀ token ∈ tokens, token.Placed)
    (read : readBlocks stops lines sibling tokens = .ok (blocks, count)) :
    SettledBehind sibling blocks := by
  -- The tokens behind a block and those inside a quote are read alike; both are fewer.
  induction counted : tokens.length using Nat.strong_induction_on
    generalizing stops lines sibling tokens blocks count with
  | _ number induction =>
      cases tokens with
      | nil =>
          rw [readBlocks] at read
          cases read
          exact .nil sibling
      | cons token rest =>
          rw [List.length_cons] at counted
          obtain ⟨-, rfl, -⟩ | ⟨next, block, width, later, passed, known, first, others, rfl, -⟩ :=
            readBlocks_eq_ok read
          · exact .nil sibling
          obtain ⟨here, rest_placed⟩ := List.forall_mem_cons.mp placed
          have behind : SettledBehind next later := by
            have fewer : (rest.drop width).length < number := by
              rw [List.length_drop]
              omega
            exact induction _ fewer
              (fun token member => rest_placed token (List.mem_of_mem_drop member)) others rfl
          have blank := sibling.isSpace_gap lines token
          have closed := sibling.gap_of_settled lines token
          obtain ⟨closing, rfl⟩ | ⟨raw, inner, children, inside, within, rfl⟩ |
            ⟨found, rfl, filled, other, rule⟩ := readBlock_eq_ok first
          · have uncovered := here.span_of_closing closing
            have same : next = sibling := by
              rw [Sibling.after, uncovered] at known
              exact (Except.ok.inj known).symm
            rw [sibling.gap_of_none uncovered, ← same]
            exact behind
          · have children_settled : Block.AllSettled children :=
              (induction rest.length (by omega) rest_placed within rfl).all
            refine behind.cons blank closed rfl (by simp [Block.isRule]) ?_
            intro inner source equal
            cases equal
            exact children_settled
          · refine behind.cons blank closed filled ?_ ?_
            · intro isRule
              have type := BlockToken.type_of_rule (rule isRule)
              exact Sibling.isRule_after type (here.rule type) known
            · rintro inner source rfl
              cases other

/-! ## Rendering settled blocks -/

theorem Block.exists_piece {block : Block} (content : block.isContent) :
    ∃ element pending, block.piece = .element element pending := by
  cases block with
  | space raw => cases content
  | rule raw => cases content
  | _ => exact ⟨_, _, rfl⟩

namespace Pass

/-- A pass in front of blocks has an element for the blank lines that come next to widen, or none
come next. -/
structure Ready (pass : Pass) (blocks : List Block) : Prop where
  last_lt : ∀ index ∈ pass.last, index < pass.body.length
  started : pass.last.isSome ∨ ∀ block ∈ blocks.head?, block.isSpace = false
  chain : blocks.IsChain fun first second => first.isRule → second.isSpace = false

theorem Ready.of_settled {blocks : List Block} (settled : Block.Settled blocks) :
    Ready {} blocks :=
  ⟨by simp, .inr settled.head, settled.chain⟩

/-- A pass that is ready for a blank line widens an element that it has. -/
theorem Ready.space {pass : Pass} {raw : String} {blocks : List Block}
    (ready : pass.Ready (.space raw :: blocks)) :
    ∃ index, pass.last = some index ∧ index < pass.body.length ∧
      pass.step (.space raw) = .ok (pass.widen index) := by
  obtain started | unspaced := ready.started
  · obtain ⟨index, last⟩ := Option.isSome_iff_exists.mp started
    refine ⟨index, last, ready.last_lt index last, ?_⟩
    rw [step, Pass.space, last]
  · cases unspaced _ rfl

/-- A step keeps a pass ready, and adds one element for a block with an element of its own. -/
theorem Ready.step {pass next : Pass} {block : Block} {blocks : List Block}
    (ready : pass.Ready (block :: blocks)) (stepped : pass.step block = .ok next) :
    next.Ready blocks ∧
      next.body.length = pass.body.length + if block.isContent then 1 else 0 := by
  obtain ⟨follows, chain⟩ := List.isChain_cons.mp ready.chain
  by_cases content : block.isContent
  · obtain ⟨element, pending, piece⟩ := Block.exists_piece content
    have state := step_eq block stepped
    rw [piece, take_element] at state
    rw [state, if_pos content]
    exact ⟨⟨by simp [inSlot], .inl rfl, chain⟩, by simp [inSlot]⟩
  · rw [if_neg content]
    cases block with
    | space raw =>
        obtain ⟨index, last, inside, widened⟩ := ready.space
        rw [widened] at stepped
        cases stepped
        refine ⟨⟨?_, .inl (by simp [widen, last]), chain⟩, by simp [widen]⟩
        simpa [widen] using ready.last_lt
    | rule raw =>
        cases stepped
        exact ⟨⟨ready.last_lt, .inr fun second next => follows second next rfl, chain⟩, rfl⟩
    | _ => exact absurd rfl content

/-- A run over the first of some blocks leaves a pass ready for the others, with one more element
for each block with an element of its own. -/
theorem Ready.run {pass next : Pass} {before after : List Block}
    (ready : pass.Ready (before ++ after)) (ran : pass.run before = .ok next) :
    next.Ready after ∧ next.body.length = pass.body.length + before.countP Block.isContent := by
  induction before generalizing pass with
  | nil =>
      rw [Pass.run] at ran
      cases ran
      exact ⟨ready, rfl⟩
  | cons block before induction =>
      rw [Pass.run, bind_eq_ok] at ran
      obtain ⟨middle, stepped, ran⟩ := ran
      obtain ⟨middle_ready, first⟩ := ready.step stepped
      obtain ⟨next_ready, others⟩ := induction middle_ready ran
      refine ⟨next_ready, ?_⟩
      rw [others, first, List.countP_cons]
      omega

theorem length_finish (pass : Pass) :
    pass.finish.body.length = pass.body.length + if pass.pending then 1 else 0 := by
  unfold finish
  split <;> simp

end Pass

/-- Siblings that are rendered without an empty container for a blank line: each blank line widens
an element that is there, and all other blocks but thematic breaks add one element. -/
structure Block.Unpadded (siblings : List Block) : Prop where
  space : ∀ before raw after pass, siblings = before ++ .space raw :: after →
    Pass.run {} before = .ok pass →
      ∃ index, pass.last = some index ∧ index < pass.body.length ∧
        pass.step (.space raw) = .ok (pass.widen index)
  length : ∀ pass, Pass.run {} siblings = .ok pass →
    pass.body.length = siblings.countP Block.isContent

theorem Block.Settled.unpadded {siblings : List Block} (settled : Block.Settled siblings) :
    Block.Unpadded siblings := by
  have ready := Pass.Ready.of_settled settled
  constructor
  case space =>
    rintro before raw after pass rfl ran
    exact (ready.run ran).1.space
  case length =>
    intro pass ran
    rw [← List.append_nil siblings] at ready
    simpa using (ready.run ran).2

/-- Whatever tokens are read as blocks, of which closing ones cover no lines and thematic breaks do:
on the page and inside every quote, no blank line comes first, last, or behind a thematic break.  So
each blank line widens an element that is there, and a body has an element for each block that is
neither a blank line nor a thematic break, and one more when a break is left at the end. -/
theorem Block.ofTokens_settled {stops lines : List String} {tokens : List BlockToken} {index : Int}
    {blocks : List Block} {stop : Int} (placed : ∀ token ∈ tokens, token.Placed)
    (read : Block.ofTokens stops lines tokens index = .ok (blocks, stop)) :
    (∀ path siblings, Block.level? blocks path = some siblings →
      Block.Settled siblings ∧ Block.Unpadded siblings) ∧
    ∀ body, renderBody blocks = .ok body →
      ∃ pass, Pass.run {} blocks = .ok pass ∧
        body.length = blocks.countP Block.isContent + if pass.pending then 1 else 0 := by
  rw [Block.ofTokens, bind_eq_ok] at read
  obtain ⟨rest, found, read⟩ := read
  rw [bind_eq_ok] at read
  obtain ⟨⟨blocks, count⟩, taken, read⟩ := read
  cases read
  have rest_placed : ∀ token ∈ rest, token.Placed :=
    fun token member => placed token (mem_of_tokensFrom? found token member)
  have settled : Block.AllSettled blocks := (readBlocks_settled rest_placed taken).all
  constructor
  · intro path siblings reached
    have level := settled path siblings reached
    exact ⟨level, level.unpadded⟩
  · intro body rendered
    rw [renderBody, bind_eq_ok] at rendered
    obtain ⟨pass, ran, equal⟩ := rendered
    cases equal
    have length := (settled [] blocks rfl).unpadded.length pass ran
    exact ⟨pass, ran, by rw [Pass.length_finish, length]⟩

/-- Lines with a break, a paragraph and a quote. -/
def unclosedLines : List String :=
  ["---", "", "a", "", "> b", ">", "> c"]

/-- A stray closing token, a thematic break, and a quote that is never closed. -/
def unclosedTokens : List BlockToken :=
  [{ type := "paragraph_close", nesting := -1 },
    { type := "hr", span := some (0, 1) },
    { type := "html_block", content := "a", span := some (2, 3) },
    { type := "blockquote_open", nesting := 1, span := some (4, 7) },
    { type := "html_block", content := "b", span := some (4, 5) },
    { type := "html_block", content := "c", span := some (6, 7) }]

/-- The blocks of the unclosed tokens: no blank line behind the break, one in front of the quote,
and one inside it. -/
def unclosedBlocks : List Block :=
  [.rule "---", .html "a", .space "\n",
    .quote [.html "b", .space "\n", .html "c"] "> b\n>\n> c"]

theorem ofTokens_unclosed :
    Block.ofTokens [] unclosedLines unclosedTokens 0 = .ok (unclosedBlocks, 7) := by
  with_unfolding_all rfl

theorem Block.ofTokens_settled_unclosed :
    (∀ token ∈ unclosedTokens, token.Placed) ∧
      Block.ofTokens [] unclosedLines unclosedTokens 0 = .ok (unclosedBlocks, 7) ∧
      (Block.Settled unclosedBlocks ∧ Block.Unpadded unclosedBlocks) ∧
      (Block.Settled [.html "b", .space "\n", .html "c"] ∧
        Block.Unpadded [.html "b", .space "\n", .html "c"]) ∧
      ∃ body, renderBody unclosedBlocks = .ok body ∧
        ∃ pass, Pass.run {} unclosedBlocks = .ok pass ∧
          body.length = 2 + if pass.pending then 1 else 0 := by
  have placed : ∀ token ∈ unclosedTokens, token.Placed := by
    intro token member
    simp only [unclosedTokens, List.mem_cons, List.not_mem_nil, or_false] at member
    rcases member with rfl | rfl | rfl | rfl | rfl | rfl <;> exact ⟨by simp, by simp, by simp⟩
  obtain ⟨levels, bodies⟩ := Block.ofTokens_settled placed ofTokens_unclosed
  exact ⟨placed, ofTokens_unclosed, levels [] _ rfl, levels [2] _ rfl, _, rfl, bodies _ rfl⟩

end CardPress
