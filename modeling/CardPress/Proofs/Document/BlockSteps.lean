import CardPress.Proofs.Document.Levels
import CardPress.Proofs.Fallible

/-!
# Steps of reading blocks

Reading blocks goes from one token that starts a block to the next one.  Each step looks at the
token and at what stands behind it, and says which block it is, if any, and how many tokens behind
it belong to the block.  This holds of any tokens, well nested or not.
-/

namespace CardPress

/-- Whether a block is a thematic break. -/
def Block.isRule : Block → Bool
  | rule _ => true
  | _ => false

/-- Whether a block is a quote. -/
def Block.isQuote : Block → Bool
  | quote .. => true
  | _ => false

theorem paragraphBlock_plain (inlines : List Inline) (raw : String) :
    (paragraphBlock inlines raw).isSpace = false ∧ (paragraphBlock inlines raw).isQuote = false ∧
      (paragraphBlock inlines raw).isRule = false := by
  unfold paragraphBlock
  split <;> exact ⟨rfl, rfl, rfl⟩

/-- The block that a token starts, if it starts one, and the number of tokens behind it that belong
to the block. -/
def readBlock (lines : List String) (token : BlockToken) (rest : List BlockToken) :
    Except ReadError (Option Block × Nat) := do
  let raw ← rawText lines token.span
  match token.role with
  | .heading =>
      let inlines ← contentOf rest
      let level ← headingLevel token.tag
      return (some (.heading level inlines raw), 2)
  | .paragraph =>
      let inlines ← contentOf rest
      return (some (paragraphBlock inlines raw), 2)
  | .list ordered => return (some (.list ordered raw), closeDistance token.level rest)
  | .code =>
      return (some (.code (fenceLanguage token.info) (dropLineFeeds token.content) raw), 0)
  | .rule => return (some (.rule raw), 0)
  | .table =>
      let (cells, width) ← readTable rest
      return (some (.table cells.header cells.rows raw), width)
  | .quote =>
      match token.span with
      | none => throw .unmappedQuote
      | some span =>
          let inner ← dropQuoteMarkers lines span
          let (children, width) ← readBlocks ["blockquote_close"] inner {} rest
          return (some (.quote children raw), width + 1)
  | .html => return (some (.html (dropLineFeeds token.content)), 0)
  | .definition => return (some (token.definition.block raw), 0)
  | .unknownContainer kind => return (some (.unknown kind raw), closeDistance token.level rest)
  | .unknownLeaf => return (some (.unknown token.type (firstNonempty raw token.content)), 0)
  | .closing => return (none, 0)

section steps

variable {stops lines : List String} {sibling : Sibling} {token : BlockToken}
  {rest : List BlockToken}

/-- Reading blocks from a token on reads the block of the token, and goes on behind it. -/
theorem readBlocks_cons (starts : token.type ∉ stops) :
    readBlocks stops lines sibling (token :: rest) = do
      let next ← sibling.after lines token
      let (block, width) ← readBlock lines token rest
      let (blocks, count) ← readBlocks stops lines next (rest.drop width)
      return (sibling.gap lines token ++ (block.toList ++ blocks), count + width + 1) := by
  rw [readBlocks, if_neg (by simpa using starts)]
  simp only [readBlock, bind_assoc]
  congr 1
  funext next
  congr 1
  funext raw
  cases token.role with
  | quote =>
      cases token.span with
      | none => rfl
      | some span => simp [Nat.add_assoc]
  | _ => simp

/-- What is read from a token on is nothing at a token of a stop type, and otherwise the blank lines
in front of the token, its block, and what is read behind it. -/
theorem readBlocks_eq_ok {blocks : List Block} {count : Nat}
    (read : readBlocks stops lines sibling (token :: rest) = .ok (blocks, count)) :
    (token.type ∈ stops ∧ blocks = [] ∧ count = 0) ∨
      ∃ next block width later passed, sibling.after lines token = .ok next ∧
        readBlock lines token rest = .ok (block, width) ∧
        readBlocks stops lines next (rest.drop width) = .ok (later, passed) ∧
        blocks = sibling.gap lines token ++ (block.toList ++ later) ∧
        count = passed + width + 1 := by
  by_cases halts : token.type ∈ stops
  · have stop : stops.contains token.type := by simpa using halts
    rw [readBlocks, if_pos stop] at read
    cases read
    exact .inl ⟨halts, rfl, rfl⟩
  · rw [readBlocks_cons halts, bind_eq_ok] at read
    obtain ⟨next, known, read⟩ := read
    rw [bind_eq_ok] at read
    obtain ⟨⟨block, width⟩, first, read⟩ := read
    rw [bind_eq_ok] at read
    obtain ⟨⟨later, passed⟩, others, read⟩ := read
    cases read
    exact .inr ⟨next, block, width, later, passed, known, first, others, rfl, rfl⟩

/-- A token is passed over as a closing one, or opens a quote, or gives one block that is neither a
blank line nor a quote, and a thematic break only if the token is one. -/
theorem readBlock_eq_ok {block : Option Block} {width : Nat}
    (read : readBlock lines token rest = .ok (block, width)) :
    (token.role = .closing ∧ block = none) ∨
      (∃ raw inner children count,
        readBlocks ["blockquote_close"] inner {} rest = .ok (children, count) ∧
          block = some (.quote children raw)) ∨
      ∃ found, block = some found ∧ found.isSpace = false ∧ found.isQuote = false ∧
        (found.isRule → token.role = .rule) := by
  rw [readBlock, bind_eq_ok] at read
  obtain ⟨raw, -, read⟩ := read
  cases role : token.role with
  | closing =>
      simp only [role] at read
      cases read
      exact .inl ⟨rfl, rfl⟩
  | quote =>
      simp only [role] at read
      cases spanned : token.span with
      | none =>
          rw [spanned] at read
          cases read
      | some span =>
          simp only [spanned, bind_eq_ok] at read
          obtain ⟨inner, -, ⟨children, count⟩, inside, equal⟩ := read
          cases equal
          exact .inr (.inl ⟨raw, inner, children, count, inside, rfl⟩)
  | rule =>
      simp only [role] at read
      cases read
      exact .inr (.inr ⟨.rule raw, rfl, rfl, rfl, fun _ => rfl⟩)
  | heading =>
      simp only [role, bind_eq_ok] at read
      obtain ⟨inlines, -, level, -, equal⟩ := read
      cases equal
      exact .inr (.inr ⟨_, rfl, rfl, rfl, fun isRule => by cases isRule⟩)
  | paragraph =>
      simp only [role, bind_eq_ok] at read
      obtain ⟨inlines, -, equal⟩ := read
      cases equal
      obtain ⟨space, quote, rule⟩ := paragraphBlock_plain inlines raw
      exact .inr (.inr ⟨_, rfl, space, quote, by simp [rule]⟩)
  | table =>
      simp only [role, bind_eq_ok] at read
      obtain ⟨cells, -, equal⟩ := read
      cases equal
      exact .inr (.inr ⟨_, rfl, rfl, rfl, fun isRule => by cases isRule⟩)
  | _ =>
      simp only [role] at read
      cases read
      exact .inr (.inr ⟨_, rfl, rfl, rfl, fun isRule => by cases isRule⟩)

end steps

end CardPress
