import CardPress.Proofs.Document.Levels
import Mathlib.Data.List.Chain
import Mathlib.Data.List.Forall2

/-!
# Lines between siblings

Siblings that cover the lines of a page in order share these lines without a loss.  The central
theorem says, for the page and for the inside of every quote, that there are as many blank lines
between two of them as there are blank lines behind the content of the first one, but none behind a
thematic break, and that the contents of all siblings and the blank lines between them are the lines
of the page from the first sibling on.
-/

namespace CardPress

/-! ## Blank lines between siblings -/

namespace BlockNode

/-- The lines that a tree covers. -/
def span (node : BlockNode) : Span :=
  node.opening.span.getD (0, 0)

/-- The content of a tree: its lines without the blank ones at the end. -/
def source (lines : List String) (node : BlockNode) : List String :=
  contentLines lines node.span

/-- The end of the content of a tree. -/
def sourceStop (lines : List String) (node : BlockNode) : Int :=
  node.span.1 + (node.source lines).length

/-- Whether a tree is a thematic break. -/
def isRule (node : BlockNode) : Bool :=
  node.opening.type = "hr"

theorem WellFormed.mapped {count : Nat} {node : BlockNode} (formed : node.WellFormed count) :
    node.opening.Mapped count := by
  cases node with
  | heading => exact formed.2.2
  | paragraph => exact formed.2
  | leaf => exact formed.2
  | list => exact formed.2.2
  | table => exact formed.2
  | quote => exact formed.2.2.1
  | unknown => exact formed.2.2.2

end BlockNode

/-- The number of blank lines between two siblings: those from the end of the content of the first
one to the start of the second one, and none behind a thematic break. -/
def blankCount (lines : List String) (first second : BlockNode) : Nat :=
  if first.isRule then 0
  else (Text.slice lines (first.sourceStop lines) second.span.1).countP Text.isBlankLine

/-- The numbers of blank lines between each two siblings. -/
def blankCounts (lines : List String) (nodes : List BlockNode) : List Nat :=
  nodes.zipWith (blankCount lines) nodes.tail

/-- Blocks with a number of blank lines between each two of them. -/
def Block.spaced : List Block → List Nat → List Block
  | block :: blocks, count :: counts =>
      block :: (List.replicate count (.space "\n") ++ spaced blocks counts)
  | blocks, _ => blocks

theorem spacesBetween_eq (lines : List String) (start stop : Int) :
    spacesBetween lines start stop =
      List.replicate ((Text.slice lines start stop).countP Text.isBlankLine) (.space "\n") := by
  rw [spacesBetween, List.map_const', List.countP_eq_length_filter]

theorem Sibling.gap_past (lines : List String) (sibling : Sibling) {first second : BlockNode}
    (covered : first.opening.span.isSome) (next : second.opening.span.isSome) :
    (sibling.past lines first.opening).gap lines second.opening =
      List.replicate (blankCount lines first second) (.space "\n") := by
  obtain ⟨span, spanned⟩ := Option.isSome_iff_exists.mp covered
  obtain ⟨later, follows⟩ := Option.isSome_iff_exists.mp next
  simp only [Sibling.gap, Sibling.past, blankCount, BlockNode.isRule, BlockNode.sourceStop,
    BlockNode.source, BlockNode.span, spanned, follows, Option.getD_some, spacesBetween_eq]
  split
  · rfl
  · rfl

namespace Siblings

/-- The siblings cover lines, each from the end of the one before on. -/
structure InOrder (siblings : Siblings) : Prop where
  covered : ∀ node ∈ siblings.nodes, node.opening.span.isSome
  ordered : siblings.nodes.IsChain fun first second => first.span.2 ≤ second.span.1

end Siblings

namespace BlockNode

/-- Behind a first sibling, siblings that cover lines are read with the blank lines between them. -/
theorem decodedAll_past {lines : List String} {nodes : List BlockNode} (sibling : Sibling)
    (first : BlockNode) (covered : ∀ node ∈ first :: nodes, node.opening.span.isSome) :
    decoded lines first :: decodedAll lines (sibling.past lines first.opening) nodes =
      Block.spaced ((first :: nodes).map (decoded lines))
        (blankCounts lines (first :: nodes)) := by
  induction nodes generalizing first sibling with
  | nil => rfl
  | cons second nodes induction =>
      obtain ⟨here, others⟩ := List.forall_mem_cons.mp covered
      have gap := sibling.gap_past lines here (others second List.mem_cons_self)
      have later := induction (sibling.past lines first.opening) second others
      rw [decodedAll, gap, later]
      rfl

/-- Siblings that cover lines are read with the blank lines between them, and with none in front of
the first or behind the last one. -/
theorem decodedAll_eq_spaced {lines : List String} {nodes : List BlockNode}
    (covered : ∀ node ∈ nodes, node.opening.span.isSome) :
    decodedAll lines {} nodes =
      Block.spaced (nodes.map (decoded lines)) (blankCounts lines nodes) := by
  cases nodes with
  | nil => rfl
  | cons first nodes =>
      have gap : ({} : Sibling).gap lines first.opening = [] := by
        cases spanned : first.opening.span <;> simp [Sibling.gap, spanned]
      rw [decodedAll, gap, List.nil_append, decodedAll_past {} first covered]

end BlockNode

/-! ## Parts of a list of lines -/

section slices

variable {entry : Type} (entries : List entry)

theorem slice_ofNat (start stop : Nat) :
    Text.slice entries (start : Int) (stop : Int) = (entries.take stop).drop start := by
  rw [Text.slice, Text.bound_ofNat, Text.bound_ofNat, ← List.take_eq_take_min]
  by_cases inside : start ≤ entries.length
  · rw [Nat.min_eq_left inside]
  · have short : (entries.take stop).length ≤ entries.length := List.length_take_le' stop entries
    rw [Nat.min_eq_right (by omega), List.drop_eq_nil_of_le short,
      List.drop_eq_nil_of_le (by omega)]

/-- Two parts of a list that follow each other are one part. -/
theorem slice_append_slice {start middle stop : Int} (nonneg : 0 ≤ start)
    (first : start ≤ middle) (second : middle ≤ stop) :
    Text.slice entries start middle ++ Text.slice entries middle stop =
      Text.slice entries start stop := by
  obtain ⟨start, rfl⟩ := Int.eq_ofNat_of_zero_le nonneg
  obtain ⟨middle, rfl⟩ := Int.eq_ofNat_of_zero_le (Int.le_trans nonneg first)
  obtain ⟨stop, rfl⟩ := Int.eq_ofNat_of_zero_le (Int.le_trans (Int.le_trans nonneg first) second)
  rw [Int.ofNat_le] at first second
  have head : (entries.take middle).drop start =
      ((entries.take stop).drop start).take (middle - start) := by
    rw [← List.drop_take, List.take_take, Nat.min_eq_left second]
  have tail : (entries.take stop).drop middle =
      ((entries.take stop).drop start).drop (middle - start) := by
    rw [List.drop_drop, Nat.add_sub_cancel' first]
  rw [slice_ofNat, slice_ofNat, slice_ofNat, head, tail, List.take_append_drop]

/-- An entry of a part of a list stands at a position between the bounds. -/
theorem exists_of_mem_slice {start stop : Int} (nonneg : 0 ≤ start) (ordered : start ≤ stop)
    {value : entry} (member : value ∈ Text.slice entries start stop) :
    ∃ index : Nat, start ≤ index ∧ (index : Int) < stop ∧ entries[index]? = some value := by
  obtain ⟨start, rfl⟩ := Int.eq_ofNat_of_zero_le nonneg
  obtain ⟨stop, rfl⟩ := Int.eq_ofNat_of_zero_le (Int.le_trans nonneg ordered)
  rw [slice_ofNat, List.mem_iff_getElem?] at member
  obtain ⟨offset, found⟩ := member
  rw [List.getElem?_drop, List.getElem?_take] at found
  split at found
  · exact ⟨start + offset, by omega, by omega, found⟩
  · cases found

end slices

/-- The lines of a span behind its content are blank. -/
theorem isBlankLine_of_trailing {lines : List String} {span : Span} {index : Nat} {line : String}
    (within : Span.Within lines.length span)
    (behind : span.1 + (contentLines lines span).length ≤ index) (inside : (index : Int) < span.2)
    (found : lines[index]? = some line) : Text.isBlankLine line = true := by
  obtain ⟨start, width, rfl, fits⟩ := within.exists_eq
  have distance : (((start + width : Nat) : Int) - (start : Int)).toNat = width := by omega
  rw [contentLines, Int.toNat_natCast, distance] at behind
  have parts := List.rdropWhile_append_rtakeWhile (p := Text.isBlankLine)
    (l := (lines.drop start).take width)
  generalize ((lines.drop start).take width).rdropWhile Text.isBlankLine = content at behind parts
  have here : ((lines.drop start).take width)[index - start]? = some line := by
    rw [List.getElem?_take_of_lt (by omega), List.getElem?_drop, Nat.add_sub_cancel' (by omega)]
    exact found
  rw [← parts, List.getElem?_append_right (by omega)] at here
  exact List.mem_rtakeWhile_imp (List.mem_of_getElem? here)

/-- The content of a tree ends between the start and the end of its lines. -/
theorem BlockNode.sourceStop_bounds {lines : List String} {node : BlockNode}
    (within : Span.Within lines.length node.span) :
    node.span.1 ≤ node.sourceStop lines ∧ node.sourceStop lines ≤ node.span.2 := by
  have ordered := within.start_le_stop
  have shorter := length_contentLines_le lines node.span
  rw [sourceStop, source]
  omega

/-! ## Conservation of lines -/

/-- Two lines are the same, or both of them are blank. -/
def SameLine (first second : String) : Prop :=
  first = second ∨ (Text.isBlankLine first = true ∧ Text.isBlankLine second = true)

/-- The lines that blocks stand for: the content of the next tree for each block, and an empty line
for each blank line between two of them. -/
def relisted (lines : List String) : List Block → List BlockNode → List String
  | [], _ => []
  | block :: blocks, nodes =>
      if block.isSpace then "" :: relisted lines blocks nodes
      else
        match nodes with
        | [] => []
        | node :: nodes => node.source lines ++ relisted lines blocks nodes

/-- Every line between siblings that belongs to none of them is blank. -/
def Siblings.BlankOutside (siblings : Siblings) : Prop :=
  ∀ (index : Nat) (line : String), siblings.lines[index]? = some line →
    (∃ before ∈ siblings.nodes, before.span.1 ≤ index) →
    (∃ after ∈ siblings.nodes, (index : Int) < after.span.2) →
    (∀ node ∈ siblings.nodes, ¬ (node.span.1 ≤ index ∧ (index : Int) < node.span.2)) →
    Text.isBlankLine line = true

theorem relisted_cons_of_filled (lines : List String) {block : Block}
    (filled : block.isSpace = false) (blocks : List Block) (node : BlockNode)
    (nodes : List BlockNode) :
    relisted lines (block :: blocks) (node :: nodes) =
      node.source lines ++ relisted lines blocks nodes := by
  simp [relisted, filled]

theorem relisted_append_spaces (lines : List String) (count : Nat) (blocks : List Block)
    (nodes : List BlockNode) :
    relisted lines (List.replicate count (.space "\n") ++ blocks) nodes =
      List.replicate count "" ++ relisted lines blocks nodes := by
  induction count with
  | zero => rfl
  | succ count induction =>
      rw [List.replicate_succ, List.replicate_succ, List.cons_append, List.cons_append, ← induction]
      simp [relisted, Block.isSpace]

/-- As many empty lines as there are blank ones among some lines are these lines, when all of them
are blank. -/
theorem forall₂_sameLine_of_blank {lines : List String}
    (blank : ∀ line ∈ lines, Text.isBlankLine line = true) :
    List.Forall₂ SameLine (List.replicate (lines.countP Text.isBlankLine) "") lines := by
  have empty : Text.isBlankLine "" = true := by decide
  induction lines with
  | nil => exact .nil
  | cons line lines induction =>
      obtain ⟨here, others⟩ := List.forall_mem_cons.mp blank
      rw [List.countP_cons_of_pos here, List.replicate_succ]
      exact .cons (.inr ⟨empty, here⟩) (induction others)

section siblings

variable {lines : List String} {first second : BlockNode} {nodes : List BlockNode}

/-- What trees cover lies in order, however far they stand apart. -/
theorem BlockNode.stop_le_start
    (within : ∀ node ∈ first :: nodes, Span.Within lines.length node.span)
    (ordered : (first :: nodes).IsChain fun first second => first.span.2 ≤ second.span.1) :
    ∀ later ∈ nodes, first.span.2 ≤ later.span.1 := by
  induction nodes generalizing first with
  | nil => simp
  | cons second nodes induction =>
      intro later member
      obtain ⟨next, others⟩ := List.isChain_cons_cons.mp ordered
      obtain ⟨-, within⟩ := List.forall_mem_cons.mp within
      obtain rfl | behind := List.mem_cons.mp member
      · exact next
      · have here := (within second List.mem_cons_self).start_le_stop
        have there := induction within others later behind
        omega

namespace Siblings.BlankOutside

/-- Without the first one, the lines between the siblings are still blank. -/
theorem tail (passed : ∀ later ∈ nodes, first.span.2 ≤ later.span.1)
    (blank : BlankOutside { lines, nodes := first :: nodes }) :
    BlankOutside { lines, nodes } := by
  rintro index line found ⟨before, member, starts⟩ ⟨after, later, ends⟩ outside
  refine blank index line found ⟨before, List.mem_cons_of_mem first member, starts⟩
    ⟨after, List.mem_cons_of_mem first later, ends⟩ (List.forall_mem_cons.mpr ⟨?_, outside⟩)
  have passed := passed before member
  omega

/-- The lines from the end of the content of a sibling up to the next one are blank: they end the
lines of the sibling, or stand behind them. -/
theorem gap (within : ∀ node ∈ first :: second :: nodes, Span.Within lines.length node.span)
    (ordered : (first :: second :: nodes).IsChain fun first second => first.span.2 ≤ second.span.1)
    (blank : BlankOutside { lines, nodes := first :: second :: nodes }) :
    ∀ line ∈ Text.slice lines (first.sourceStop lines) second.span.1,
      Text.isBlankLine line = true := by
  intro line member
  obtain ⟨here, others⟩ := List.forall_mem_cons.mp within
  obtain ⟨passed, later_ordered⟩ := List.isChain_cons_cons.mp ordered
  have behind := BlockNode.stop_le_start others later_ordered
  have first_le := here.start_le_stop
  have second_le := (others second List.mem_cons_self).start_le_stop
  obtain ⟨start_le, le_stop⟩ := first.sourceStop_bounds here
  obtain ⟨index, stop_le, before, found⟩ :=
    exists_of_mem_slice lines (Int.le_trans here.start_nonneg start_le) (by omega) member
  by_cases inside : (index : Int) < first.span.2
  · exact isBlankLine_of_trailing here stop_le inside found
  · have outside : ∀ node ∈ first :: second :: nodes,
        ¬ (node.span.1 ≤ index ∧ (index : Int) < node.span.2) := by
      refine List.forall_mem_cons.mpr ⟨by omega, List.forall_mem_cons.mpr ⟨by omega, ?_⟩⟩
      intro node later
      have starts := behind node later
      omega
    have after : second ∈ first :: second :: nodes := List.mem_cons_of_mem first List.mem_cons_self
    exact blank index line found ⟨first, List.mem_cons_self, by omega⟩ ⟨second, after, by omega⟩
      outside

end Siblings.BlankOutside

/-- The contents of siblings and an empty line for each blank line between them are the lines from
the first sibling to the end of the content of the last one. -/
theorem sameLine_relisted (within : ∀ node ∈ first :: nodes, Span.Within lines.length node.span)
    (ordered : (first :: nodes).IsChain fun first second => first.span.2 ≤ second.span.1)
    (blank : Siblings.BlankOutside { lines, nodes := first :: nodes })
    (rules : ∀ node ∈ (first :: nodes).dropLast, node.isRule = false) :
    ∀ last ∈ (first :: nodes).getLast?, first.span.1 ≤ last.sourceStop lines ∧
      List.Forall₂ SameLine
        (relisted lines (Block.spaced ((first :: nodes).map (BlockNode.decoded lines))
          (blankCounts lines (first :: nodes))) (first :: nodes))
        (Text.slice lines first.span.1 (last.sourceStop lines)) := by
  have same (part : List String) : List.Forall₂ SameLine part part :=
    List.forall₂_same.mpr fun line _ => .inl rfl
  induction nodes generalizing first with
  | nil =>
      intro last final
      obtain rfl : first = last := by simpa using final
      obtain ⟨here, -⟩ := List.forall_mem_cons.mp within
      have source := slice_contentLines here
      refine ⟨(first.sourceStop_bounds here).1, ?_⟩
      rw [BlockNode.sourceStop, BlockNode.source, source]
      change List.Forall₂ SameLine (relisted lines [first.decoded lines] [first]) _
      rw [relisted_cons_of_filled lines (first.isSpace_decoded lines), relisted, List.append_nil]
      exact same _
  | cons second nodes induction =>
      intro last final
      obtain ⟨here, others⟩ := List.forall_mem_cons.mp within
      obtain ⟨next, later_ordered⟩ := List.isChain_cons_cons.mp ordered
      obtain ⟨no_rule, later_rules⟩ := List.forall_mem_cons.mp rules
      have passed := BlockNode.stop_le_start within ordered
      have between := forall₂_sameLine_of_blank (blank.gap within ordered)
      obtain ⟨le_end, rest⟩ :=
        induction others later_ordered (blank.tail passed) later_rules last final
      obtain ⟨start_le, le_stop⟩ := first.sourceStop_bounds here
      have nonneg := here.start_nonneg
      have content : Text.slice lines first.span.1 (first.sourceStop lines) = first.source lines :=
        slice_contentLines here
      have parts : Text.slice lines first.span.1 (last.sourceStop lines) =
          first.source lines ++ (Text.slice lines (first.sourceStop lines) second.span.1 ++
            Text.slice lines second.span.1 (last.sourceStop lines)) := by
        rw [slice_append_slice lines (by omega) (by omega) le_end, ← content,
          slice_append_slice lines nonneg start_le (by omega)]
      have counts : blankCounts lines (first :: second :: nodes) =
          (Text.slice lines (first.sourceStop lines) second.span.1).countP Text.isBlankLine ::
            blankCounts lines (second :: nodes) := by
        change blankCount lines first second :: _ = _
        rw [blankCount, no_rule]
        rfl
      refine ⟨by omega, ?_⟩
      rw [parts, counts, List.map_cons, Block.spaced,
        relisted_cons_of_filled lines (first.isSpace_decoded lines), relisted_append_spaces]
      exact List.rel_append (same _) (List.rel_append between rest)

end siblings

/-- What the blocks that are read from siblings say about their lines. -/
structure Siblings.Accounts (siblings : Siblings) (found : List Block) : Prop where
  /-- There is one block for each tree, and there are blank lines between two blocks only, as many
  as between their trees. -/
  spaced : ∃ filled, (∀ block ∈ filled, block.isSpace = false) ∧
    filled.map Block.withoutSpaces = siblings.nodes.map (BlockNode.block siblings.lines) ∧
    found = Block.spaced filled (blankCounts siblings.lines siblings.nodes)
  /-- No line is lost or counted twice. -/
  conserved : siblings.BlankOutside → (∀ node ∈ siblings.nodes.dropLast, node.isRule = false) →
    ∀ first ∈ siblings.nodes.head?, ∀ last ∈ siblings.nodes.getLast?,
      List.Forall₂ SameLine (relisted siblings.lines found siblings.nodes)
        (Text.slice siblings.lines first.span.1 (last.sourceStop siblings.lines))

/-- The blocks of siblings in order account for their lines. -/
theorem Siblings.accounts_blocks {siblings : Siblings} (formed : siblings.WellFormed)
    (inOrder : siblings.InOrder) : siblings.Accounts siblings.blocks := by
  obtain ⟨lines, nodes⟩ := siblings
  obtain ⟨covered, ordered⟩ := inOrder
  have read : blocks { lines, nodes } =
      Block.spaced (nodes.map (BlockNode.decoded lines)) (blankCounts lines nodes) :=
    BlockNode.decodedAll_eq_spaced covered
  constructor
  case spaced =>
    refine ⟨nodes.map (BlockNode.decoded lines), ?_, ?_, read⟩
    · exact List.forall_mem_map.mpr fun node _ => node.isSpace_decoded lines
    · rw [List.map_map]
      exact List.map_congr_left fun node _ => node.withoutSpaces_decoded lines
  case conserved =>
    intro blank rules first starts last ends
    have within : ∀ node ∈ nodes, Span.Within lines.length node.span := by
      intro node member
      obtain ⟨span, spanned⟩ := Option.isSome_iff_exists.mp (covered node member)
      rw [BlockNode.span, spanned]
      exact (formed.node member).mapped span spanned
    obtain ⟨rest, rfl⟩ := List.head?_eq_some_iff.mp starts
    rw [read]
    exact (sameLine_relisted within ordered blank rules last ends).2

/-- A well-nested stream is read without an error, and on the page and inside every quote, the
blocks of siblings in order account for their lines: between two of them stand as many blank lines
as between their trees, none stand in front of the first or behind the last one, and without rules
and stray lines between them, the blocks and the blank lines between them are the lines again. -/
theorem Block.ofTokens_siblingLines {stops lines : List String} {before after : List BlockToken}
    {forest : List BlockNode} (formed : BlockNode.allWellFormed lines.length forest)
    (starts : ∀ node ∈ forest, node.opening.type ∉ stops)
    (halts : ∀ token ∈ after.head?, token.type ∈ stops) :
    ∃ blocks,
      Block.ofTokens stops lines (before ++ (BlockNode.flatten forest ++ after)) before.length =
        .ok (blocks, (before.length + (BlockNode.flatten forest).length : Nat)) ∧
      ∀ (path : List Nat) (siblings : Siblings),
        Siblings.level? { lines, nodes := forest } path = some siblings → siblings.InOrder →
          ∃ found, Block.level? blocks path = some found ∧ siblings.Accounts found := by
  refine ⟨BlockNode.decodedAll lines {} forest, Block.ofTokens_embedded formed starts halts, ?_⟩
  intro path siblings reached inOrder
  have page : Siblings.WellFormed { lines, nodes := forest } := formed
  obtain ⟨inside, found⟩ := Siblings.level?_blocks path page reached
  exact ⟨siblings.blocks, found, Siblings.accounts_blocks inside inOrder⟩

/-- The quote and the rule stand around one blank line, as the heading and the list inside the quote
do, and all lines of the page come back from its blocks. -/
theorem Block.ofTokens_siblingLines_quote :
    ∃ blocks,
      Block.ofTokens ["section_close"] quotedLines
        ([{ type := "section_open", nesting := 1 }] ++
          (BlockNode.flatten quotedForest ++ [{ type := "section_close", nesting := -1 }])) 1 =
        .ok (blocks, 11) ∧
      (∃ found, Block.level? blocks [] = some found ∧
        blankCounts quotedLines quotedForest = [1] ∧
        Siblings.Accounts { lines := quotedLines, nodes := quotedForest } found ∧
        List.Forall₂ SameLine (relisted quotedLines found quotedForest) quotedLines) ∧
      ∃ siblings found,
        Siblings.level? { lines := quotedLines, nodes := quotedForest } [0] = some siblings ∧
          siblings.lines = ["## a", "", "- b", "", "---"] ∧
          blankCounts siblings.lines siblings.nodes = [1] ∧
          Block.level? blocks [0] = some found ∧ siblings.Accounts found := by
  obtain ⟨blocks, read, accounts⟩ := @Block.ofTokens_siblingLines ["section_close"] quotedLines
    [{ type := "section_open", nesting := 1 }] [{ type := "section_close", nesting := -1 }]
    quotedForest quotedForest_wellFormed (by simp [quotedForest, BlockNode.opening]) (by simp)
  have page : Siblings.InOrder { lines := quotedLines, nodes := quotedForest } :=
    ⟨by simp [quotedForest, BlockNode.opening],
      by simp [quotedForest, BlockNode.span, BlockNode.opening]⟩
  have blank : Siblings.BlankOutside { lines := quotedLines, nodes := quotedForest } := by
    intro index line found _ _ outside
    obtain ⟨below, -⟩ := List.getElem?_eq_some_iff.mp found
    change index < 5 at below
    have quote := outside _ List.mem_cons_self
    have rule := outside _ (List.mem_cons_of_mem _ List.mem_cons_self)
    simp only [BlockNode.span, BlockNode.opening, Option.getD_some] at quote rule
    omega
  have rules : ∀ node ∈ quotedForest.dropLast, node.isRule = false := by
    simp [quotedForest, BlockNode.isRule, BlockNode.opening]
  have inside : ∃ siblings,
      Siblings.level? { lines := quotedLines, nodes := quotedForest } [0] = some siblings ∧
        siblings.lines = ["## a", "", "- b", "", "---"] ∧
        blankCounts siblings.lines siblings.nodes = [1] ∧ siblings.InOrder :=
    ⟨_, rfl, by decide, by decide, by simp [BlockNode.opening],
      by simp [BlockNode.span, BlockNode.opening]⟩
  obtain ⟨siblings, reached, lines, counts, inOrder⟩ := inside
  obtain ⟨outer, outer_found, outer_account⟩ := accounts [] _ rfl page
  obtain ⟨inner, inner_found, inner_account⟩ := accounts [0] siblings reached inOrder
  have conserved := outer_account.conserved blank rules _ rfl _ rfl
  exact ⟨blocks, read, ⟨outer, outer_found, by decide, outer_account, conserved⟩,
    siblings, inner, reached, lines, counts, inner_found, inner_account⟩

end CardPress
