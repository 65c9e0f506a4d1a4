import CardPress.Proofs.Document.Decode

/-!
# Quoting a page

A page is quoted by a marker in front of each of its lines and a pair of tokens around its stream.
The central theorem says that quoting adds nothing but a quote: however often a page is quoted, and
however its markers are indented, the blocks inside the innermost quote are the blocks of the page,
with the same sources and the same blank lines at every depth.
-/

namespace CardPress

/-! ## Markers -/

/-- A quote marker behind some spaces, and the space behind it. -/
def quoteMarker (indent : Nat) : String :=
  String.ofList (List.replicate indent ' ' ++ ['>', ' '])

theorem toList_quoteMarker_append (indent : Nat) (line : String) :
    (quoteMarker indent ++ line).toList =
      List.replicate indent ' ' ++ '>' :: ' ' :: line.toList := by
  simp [quoteMarker]

theorem dropQuoteMarker_append {indent : Nat} (small : indent ≤ 3) (line : String) :
    dropQuoteMarker (quoteMarker indent ++ line) = line := by
  have blanks : ((quoteMarker indent ++ line).toList.takeWhile (· = ' ')).length = indent := by
    rw [toList_quoteMarker_append, List.takeWhile_append_of_pos (by simp)]
    simp
  have rest : (quoteMarker indent ++ line).toList.drop indent = '>' :: ' ' :: line.toList := by
    rw [toList_quoteMarker_append, List.drop_left' (by simp)]
  simp only [dropQuoteMarker, blanks, rest, if_pos small, String.ofList_toList]

theorem isBlankLine_quoteMarker_append (indent : Nat) (line : String) :
    Text.isBlankLine (quoteMarker indent ++ line) = false := by
  have filled : Text.isBlank '>' = false := by decide
  rw [Text.isBlankLine, toList_quoteMarker_append]
  simp [filled]

/-! ## Levels of quoting -/

/-- One level of quoting. -/
structure QuoteLevel where
  /-- The number of spaces in front of the marker of each line. -/
  indent : Nat → Fin 4
  opening : BlockToken
  closing : BlockToken

namespace QuoteLevel

/-- Lines behind the markers of a level. -/
def mark (level : QuoteLevel) (lines : List String) : List String :=
  lines.mapIdx fun index line => quoteMarker (level.indent index) ++ line

/-- A level whose tokens enclose a whole page of some lines. -/
structure Covers (count : Nat) (level : QuoteLevel) : Prop where
  opens : level.opening.type = "blockquote_open"
  span_eq : level.opening.span = some (0, (count : Int))
  closes : level.closing.type = "blockquote_close"

@[simp]
theorem length_mark (level : QuoteLevel) (lines : List String) :
    (level.mark lines).length = lines.length := by
  simp [mark]

theorem innerLines_mark (level : QuoteLevel) (lines : List String) :
    innerLines (level.mark lines) (0, (lines.length : Int)) = lines := by
  apply List.ext_getElem
  · simp
  · intro index first second
    have inside : (0 : Int) ≤ index ∧ (index : Int) < lines.length := by omega
    have small : (level.indent index).val ≤ 3 := by omega
    simp only [innerLines, mark, List.getElem_mapIdx, if_pos inside]
    exact dropQuoteMarker_append small _

/-- No line of a marked page is blank, so that its source is the whole page. -/
theorem sourceText_mark (level : QuoteLevel) (lines : List String) :
    sourceText (level.mark lines) (some (0, (lines.length : Int))) =
      "\n".intercalate (level.mark lines) := by
  have whole : (level.mark lines).take lines.length = level.mark lines := by
    rw [← level.length_mark lines, List.take_length]
  -- The last line holds a marker, so that nothing is cut off behind it.
  have filled : (level.mark lines).rdropWhile Text.isBlankLine = level.mark lines := by
    rw [List.rdropWhile_eq_self_iff]
    intro _ blank
    obtain ⟨index, inside, last⟩ := List.getElem_of_mem (List.getLast_mem _)
    rw [← last] at blank
    simp [mark, isBlankLine_quoteMarker_append] at blank
  simp only [sourceText, contentLines, Int.toNat_zero, List.drop_zero, Int.sub_zero,
    Int.toNat_natCast, whole, filled]

/-- A forest inside the quote of a level. -/
def grow (level : QuoteLevel) (forest : List BlockNode) : BlockNode :=
  .quote level.opening forest level.closing

theorem Covers.mapped {count : Nat} {level : QuoteLevel} (covers : level.Covers count) :
    level.opening.Mapped count := by
  intro span member
  obtain rfl : (0, (count : Int)) = span := by simpa [covers.span_eq] using member
  exact ⟨Int.le_refl 0, Int.natCast_nonneg count, Int.le_refl _⟩

theorem Covers.grow_wellFormed {count : Nat} {level : QuoteLevel} {forest : List BlockNode}
    (covers : level.Covers count) (formed : BlockNode.allWellFormed count forest)
    (starts : ∀ node ∈ forest, node.opening.type ≠ "blockquote_close") :
    (level.grow forest).WellFormed count :=
  ⟨covers.opens, by simp [covers.span_eq], covers.mapped, covers.closes, starts, formed⟩

/-- Inside one quote a forest is read as it is read alone. -/
theorem Covers.decodedAll_grow {lines : List String} {level : QuoteLevel}
    (covers : level.Covers lines.length) (forest : List BlockNode) :
    BlockNode.decodedAll (level.mark lines) {} [level.grow forest] =
      [.quote (BlockNode.decodedAll lines {} forest) ("\n".intercalate (level.mark lines))] := by
  -- The quote is the first of its siblings, so that no blank line stands in front of it.
  have gap : ({} : Sibling).gap (level.mark lines) level.opening = [] := by
    simp [Sibling.gap, covers.span_eq]
  have inner : quoteLines (level.mark lines) level.opening.span = lines := by
    rw [covers.span_eq, quoteLines, innerLines_mark]
  have source : sourceText (level.mark lines) level.opening.span =
      "\n".intercalate (level.mark lines) := by
    rw [covers.span_eq, sourceText_mark]
  rw [BlockNode.decodedAll, BlockNode.decodedAll, grow, BlockNode.opening, BlockNode.decoded, gap,
    inner, source, List.nil_append]

/-! ## Several levels -/

/-- Lines behind the markers of several levels, the outermost first. -/
def markAll (levels : List QuoteLevel) (lines : List String) : List String :=
  levels.foldr mark lines

/-- A stream between the tokens of several levels, the outermost first. -/
def wrapAll (levels : List QuoteLevel) (tokens : List BlockToken) : List BlockToken :=
  levels.foldr (fun level inner => enclose level.opening inner level.closing) tokens

/-- A forest inside one quote for each level. -/
def growAll (levels : List QuoteLevel) (forest : List BlockNode) : List BlockNode :=
  levels.foldr (fun level inner => [level.grow inner]) forest

/-- Blocks inside one quote for each level; the source of a quote is its whole marked page. -/
def quoteAll (lines : List String) (blocks : List Block) : List QuoteLevel → List Block
  | [] => blocks
  | level :: levels =>
      [.quote (quoteAll lines blocks levels) ("\n".intercalate (markAll (level :: levels) lines))]

@[simp]
theorem length_markAll (levels : List QuoteLevel) (lines : List String) :
    (markAll levels lines).length = lines.length := by
  induction levels with
  | nil => rfl
  | cons level levels induction => exact (level.length_mark _).trans induction

theorem length_wrapAll (levels : List QuoteLevel) (tokens : List BlockToken) :
    (wrapAll levels tokens).length = tokens.length + 2 * levels.length := by
  induction levels with
  | nil => rfl
  | cons level levels induction =>
      have step : (wrapAll (level :: levels) tokens).length = (wrapAll levels tokens).length + 2 :=
        length_enclose ..
      rw [step, induction, List.length_cons]
      omega

theorem flatten_growAll (levels : List QuoteLevel) (forest : List BlockNode) :
    BlockNode.flatten (growAll levels forest) = wrapAll levels (BlockNode.flatten forest) := by
  induction levels with
  | nil => rfl
  | cons level levels induction =>
      calc BlockNode.flatten (growAll (level :: levels) forest)
        _ = enclose level.opening (BlockNode.flatten (growAll levels forest)) level.closing ++ [] :=
            rfl
        _ = wrapAll (level :: levels) (BlockNode.flatten forest) := by
            rw [List.append_nil, induction]
            rfl

/-- Quoting keeps a forest well formed, and no quote starts with the end of another one. -/
theorem growAll_wellFormed {count : Nat} {levels : List QuoteLevel} {forest : List BlockNode}
    (covers : ∀ level ∈ levels, level.Covers count)
    (formed : BlockNode.allWellFormed count forest)
    (starts : ∀ node ∈ forest, node.opening.type ≠ "blockquote_close") :
    BlockNode.allWellFormed count (growAll levels forest) ∧
      ∀ node ∈ growAll levels forest, node.opening.type ≠ "blockquote_close" := by
  induction levels with
  | nil => exact ⟨formed, starts⟩
  | cons level levels induction =>
      obtain ⟨first, others⟩ := List.forall_mem_cons.mp covers
      obtain ⟨inside, apart⟩ := induction others
      refine ⟨⟨first.grow_wellFormed inside apart, trivial⟩, ?_⟩
      simp [growAll, grow, BlockNode.opening, first.opens]

theorem decodedAll_growAll {lines : List String} {levels : List QuoteLevel}
    (covers : ∀ level ∈ levels, level.Covers lines.length) (forest : List BlockNode) :
    BlockNode.decodedAll (markAll levels lines) {} (growAll levels forest) =
      quoteAll lines (BlockNode.decodedAll lines {} forest) levels := by
  induction levels with
  | nil => rfl
  | cons level levels induction =>
      obtain ⟨first, others⟩ := List.forall_mem_cons.mp covers
      rw [← length_markAll levels lines] at first
      have step := first.decodedAll_grow (growAll levels forest)
      rw [induction others] at step
      exact step

end QuoteLevel

/-- A page that is quoted any number of times, with markers of up to three spaces that may differ
from line to line and from level to level, is read as that many quotes around the blocks of the
page. -/
theorem Block.ofTokens_quoted {lines : List String} {forest : List BlockNode}
    {levels : List QuoteLevel} (formed : BlockNode.allWellFormed lines.length forest)
    (starts : ∀ node ∈ forest, node.opening.type ≠ "blockquote_close")
    (covers : ∀ level ∈ levels, level.Covers lines.length) :
    ∃ blocks,
      Block.ofTokens [] lines (BlockNode.flatten forest) 0 =
        .ok (blocks, (BlockNode.flatten forest).length) ∧
      Block.ofTokens [] (QuoteLevel.markAll levels lines)
          (QuoteLevel.wrapAll levels (BlockNode.flatten forest)) 0 =
        .ok (QuoteLevel.quoteAll lines blocks levels,
          ((BlockNode.flatten forest).length + 2 * levels.length : Nat)) := by
  have quotes := (QuoteLevel.growAll_wellFormed covers formed starts).1
  rw [← QuoteLevel.length_markAll levels lines] at quotes
  refine ⟨_, Block.ofTokens_stream formed (by simp), ?_⟩
  rw [← QuoteLevel.flatten_growAll, Block.ofTokens_stream quotes (by simp),
    QuoteLevel.decodedAll_growAll covers, QuoteLevel.flatten_growAll, QuoteLevel.length_wrapAll]

/-- Two levels around five lines, the inner one with markers that move to the right. -/
def twoLevels : List QuoteLevel :=
  [{ indent := fun _ => 0
     opening := { type := "blockquote_open", nesting := 1, span := some (0, 5) }
     closing := { type := "blockquote_close", nesting := -1 } },
    { indent := fun index => if index < 2 then 1 else 3
      opening := { type := "blockquote_open", nesting := 1, level := 1, span := some (0, 5) }
      closing := { type := "blockquote_close", nesting := -1, level := 1 } }]

/-- Quoting a page twice puts two quotes around its blocks. -/
theorem Block.ofTokens_quoted_twice :
    QuoteLevel.markAll twoLevels quotedLines =
        [">  > > ## a", ">  > >", ">    > > - b", ">    > ", ">    > ---"] ∧
      ∃ blocks inner outer,
        Block.ofTokens [] quotedLines (BlockNode.flatten quotedForest) 0 = .ok (blocks, 10) ∧
        Block.ofTokens [] (QuoteLevel.markAll twoLevels quotedLines)
            (QuoteLevel.wrapAll twoLevels (BlockNode.flatten quotedForest)) 0 =
          .ok ([.quote [.quote blocks inner] outer], 14) := by
  have starts : ∀ node ∈ quotedForest, node.opening.type ≠ "blockquote_close" := by
    simp [quotedForest, BlockNode.opening]
  have covers : ∀ level ∈ twoLevels, level.Covers quotedLines.length := by
    intro level member
    simp only [twoLevels, List.mem_cons, List.not_mem_nil, or_false] at member
    obtain rfl | rfl := member <;> exact ⟨rfl, rfl, rfl⟩
  obtain ⟨blocks, alone, quoted⟩ := Block.ofTokens_quoted quotedForest_wellFormed starts covers
  exact ⟨by decide, blocks, _, _, alone, quoted⟩

end CardPress
