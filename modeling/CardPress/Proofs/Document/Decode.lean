import CardPress.Proofs.Document.Forest
import CardPress.Proofs.Document.TokenIndex

/-!
# Reading a forest

Reading the tokens of a forest finds one block for each of its trees, in order, with nothing but
blank lines between two of them, and stops exactly behind its last token: at the end of the stream
or at a token of a stop type.
-/

namespace CardPress

/-! ## Roles -/

/-- A type without a meaning leaves the role to the nesting. -/
theorem BlockToken.role_of_unknown {token : BlockToken} (unknown : token.type ∉ knownTypes) :
    token.role =
      if token.nesting = 1 then .unknownContainer (containerKind token.type)
      else if token.nesting = 0 then .unknownLeaf
      else .closing := by
  simp only [knownTypes, List.mem_cons, List.not_mem_nil, or_false, not_or] at unknown
  unfold BlockToken.role
  split <;> simp_all

/-- The role of the tokens that stand alone with a given meaning. -/
def LeafRole.blockRole : LeafRole → BlockRole
  | code => .code
  | rule => .rule
  | html => .html
  | definition => .definition
  | unknown => .unknownLeaf

theorem LeafRole.Admits.role_eq {role : LeafRole} {token : BlockToken}
    (admits : role.Admits token) : token.role = role.blockRole := by
  cases role with
  | code =>
      rcases admits with type | type
      · simp [BlockToken.role, LeafRole.blockRole, type]
      · simp [BlockToken.role, LeafRole.blockRole, type]
  | unknown =>
      obtain ⟨alone, strange⟩ := admits
      simp [BlockToken.role_of_unknown strange, LeafRole.blockRole, alone]
  | _ =>
      rw [LeafRole.Admits] at admits
      simp [BlockToken.role, LeafRole.blockRole, admits]

theorem headingLevel_tag (level : Fin 6) :
    headingLevel ("h" ++ toString (level.val + 1)) = .ok (level.val + 1) := by
  revert level
  decide

/-! ## Siblings -/

/-- What is known of the siblings behind a token whose span lies within the lines. -/
def Sibling.past (lines : List String) (sibling : Sibling) (token : BlockToken) : Sibling :=
  match token.span with
  | some span =>
      { stop := some (span.1 + (contentLines lines span).length), isRule := token.type = "hr" }
  | none => sibling

theorem Sibling.after_eq {lines : List String} {token : BlockToken}
    (mapped : token.Mapped lines.length) (sibling : Sibling) :
    sibling.after lines token = .ok (sibling.past lines token) := by
  unfold Sibling.after Sibling.past
  cases covered : token.span with
  | none => rfl
  | some span =>
      simp only [contentEnd_eq (mapped span covered)]
      rfl

/-- The tokens that a forest may stand in front of: none, or some that start with a stop type. -/
def Halts (stops : List String) (rest : List BlockToken) : Prop :=
  ∀ token ∈ rest.head?, token.type ∈ stops

theorem readBlocks_of_halts {stops : List String} {rest : List BlockToken}
    (halts : Halts stops rest) (lines : List String) (sibling : Sibling) :
    readBlocks stops lines sibling rest = .ok ([], 0) := by
  cases rest with
  | nil => rw [readBlocks]
  | cons token rest =>
      have stop : stops.contains token.type := by simpa using halts token rfl
      rw [readBlocks, if_pos stop]

/-- The distance to the token that closes a pair is the width of what stands between. -/
theorem closeDistance_eq {opening closing : BlockToken} {content : List BlockToken}
    (encloses : Encloses opening content closing) (rest : List BlockToken) :
    closeDistance opening.level (content ++ closing :: rest) = content.length + 1 := by
  have passed : content.findIdx? (fun token => token.nesting = -1 ∧ token.level = opening.level) =
      none := by
    rw [List.findIdx?_eq_none_iff]
    intro token member
    have deeper := encloses.deeper token member
    rw [decide_eq_false_iff_not]
    omega
  have found : decide (closing.nesting = -1 ∧ closing.level = opening.level) :=
    decide_eq_true ⟨encloses.closes, encloses.level_eq⟩
  rw [closeDistance, List.findIdx?_append, passed, List.findIdx?_cons, if_pos found]
  simp

/-! ## Trees -/

namespace BlockNode

mutual

/-- The block of a tree with the blank lines between the siblings inside it. -/
def decoded (lines : List String) : BlockNode → Block
  | quote opening children _ =>
      .quote (decodedAll (quoteLines lines opening.span) {} children)
        (sourceText lines opening.span)
  | node => node.block lines

/-- The blocks of a forest, each behind the blank lines between its sibling and itself. -/
def decodedAll (lines : List String) (sibling : Sibling) : List BlockNode → List Block
  | [] => []
  | node :: nodes =>
      sibling.gap lines node.opening ++ node.decoded lines ::
        decodedAll lines (sibling.past lines node.opening) nodes

end

section step

variable {stops lines : List String} {sibling : Sibling} {rest : List BlockToken}
  {found : List Block} {count : Nat}

/-- A heading is one block. -/
theorem readBlocks_heading {level : Fin 6} {opening inline closing : BlockToken}
    (formed : (heading level opening inline closing).WellFormed lines.length)
    (starts : opening.type ∉ stops)
    (later : readBlocks stops lines (sibling.past lines opening) rest = .ok (found, count)) :
    readBlocks stops lines sibling (opening :: inline :: closing :: rest) =
      .ok (sibling.gap lines opening ++ (heading level opening inline closing).block lines :: found,
        count + 3) := by
  obtain ⟨type, tag, mapped⟩ := formed
  have role : opening.role = .heading := by simp [BlockToken.role, type]
  rw [readBlocks, if_neg (by simpa using starts), Sibling.after_eq mapped, rawText_eq mapped, role,
    tag, headingLevel_tag]
  simp only [bind, Except.bind, contentOf, List.drop_succ_cons, List.drop_zero, later]
  rfl

/-- A paragraph is one block. -/
theorem readBlocks_paragraph {opening inline closing : BlockToken}
    (formed : (paragraph opening inline closing).WellFormed lines.length)
    (starts : opening.type ∉ stops)
    (later : readBlocks stops lines (sibling.past lines opening) rest = .ok (found, count)) :
    readBlocks stops lines sibling (opening :: inline :: closing :: rest) =
      .ok (sibling.gap lines opening ++ (paragraph opening inline closing).block lines :: found,
        count + 3) := by
  obtain ⟨type, mapped⟩ := formed
  have role : opening.role = .paragraph := by simp [BlockToken.role, type]
  rw [readBlocks, if_neg (by simpa using starts), Sibling.after_eq mapped, rawText_eq mapped, role]
  simp only [bind, Except.bind, contentOf, List.drop_succ_cons, List.drop_zero, later]
  rfl

/-- A token that stands alone is one block. -/
theorem readBlocks_leaf {role : LeafRole} {token : BlockToken}
    (formed : (leaf role token).WellFormed lines.length) (starts : token.type ∉ stops)
    (later : readBlocks stops lines (sibling.past lines token) rest = .ok (found, count)) :
    readBlocks stops lines sibling (token :: rest) =
      .ok (sibling.gap lines token ++ (leaf role token).block lines :: found, count + 1) := by
  obtain ⟨admits, mapped⟩ := formed
  rw [readBlocks, if_neg (by simpa using starts), Sibling.after_eq mapped, rawText_eq mapped,
    admits.role_eq]
  cases role <;> simp only [LeafRole.blockRole, bind, Except.bind, later] <;> rfl

/-- A list is one block, whatever is inside it. -/
theorem readBlocks_list {ordered : Bool} {opening closing : BlockToken}
    {content : List BlockToken}
    (formed : (list ordered opening content closing).WellFormed lines.length)
    (starts : opening.type ∉ stops)
    (later : readBlocks stops lines (sibling.past lines opening) rest = .ok (found, count)) :
    readBlocks stops lines sibling (enclose opening content closing ++ rest) =
      .ok (sibling.gap lines opening ++ (list ordered opening content closing).block lines :: found,
        count + (enclose opening content closing).length) := by
  obtain ⟨type, encloses, mapped⟩ := formed
  have role : opening.role = .list ordered := by
    cases ordered <;> simp [BlockToken.role, type]
  rw [enclose_append, length_enclose, readBlocks, if_neg (by simpa using starts),
    Sibling.after_eq mapped, rawText_eq mapped, role]
  simp only [bind, Except.bind, closeDistance_eq encloses, drop_closing, later]
  rfl

/-- An unknown container is one block, whatever is inside it. -/
theorem readBlocks_unknown {opening closing : BlockToken} {content : List BlockToken}
    (formed : (unknown opening content closing).WellFormed lines.length)
    (starts : opening.type ∉ stops)
    (later : readBlocks stops lines (sibling.past lines opening) rest = .ok (found, count)) :
    readBlocks stops lines sibling (enclose opening content closing ++ rest) =
      .ok (sibling.gap lines opening ++ (unknown opening content closing).block lines :: found,
        count + (enclose opening content closing).length) := by
  obtain ⟨opens, strange, encloses, mapped⟩ := formed
  have role : opening.role = .unknownContainer (containerKind opening.type) := by
    rw [BlockToken.role_of_unknown strange, if_pos opens]
  rw [enclose_append, length_enclose, readBlocks, if_neg (by simpa using starts),
    Sibling.after_eq mapped, rawText_eq mapped, role]
  simp only [bind, Except.bind, closeDistance_eq encloses, drop_closing, later]
  rfl

/-- A table is one block with all its cells. -/
theorem readBlocks_table {tokens : TableTokens}
    (formed : (table tokens).WellFormed lines.length) (starts : tokens.opening.type ∉ stops)
    (later : readBlocks stops lines (sibling.past lines tokens.opening) rest = .ok (found, count)) :
    readBlocks stops lines sibling (tokens.tokens ++ rest) =
      .ok (sibling.gap lines tokens.opening ++ (table tokens).block lines :: found,
        count + tokens.tokens.length) := by
  obtain ⟨formed, mapped⟩ := formed
  have role : tokens.opening.role = .table := by simp [BlockToken.role, formed.opens]
  rw [TableTokens.tokens, enclose_append, length_enclose, readBlocks,
    if_neg (by simpa using starts), Sibling.after_eq mapped, rawText_eq mapped, role]
  simp only [bind, Except.bind, readTable_inner formed, drop_closing, later]
  rfl

/-- A quote is one block, made of what is read inside it. -/
theorem readBlocks_quote {opening closing : BlockToken} {children : List BlockNode}
    {inside : List BlockToken} {blocks : List Block}
    (formed : (quote opening children closing).WellFormed lines.length)
    (starts : opening.type ∉ stops)
    (inner : readBlocks ["blockquote_close"] (quoteLines lines opening.span) {}
      (inside ++ closing :: rest) = .ok (blocks, inside.length))
    (later : readBlocks stops lines (sibling.past lines opening) rest = .ok (found, count)) :
    readBlocks stops lines sibling (enclose opening inside closing ++ rest) =
      .ok (sibling.gap lines opening ++ .quote blocks (sourceText lines opening.span) :: found,
        count + (enclose opening inside closing).length) := by
  obtain ⟨type, covered, mapped, -, -, -⟩ := formed
  obtain ⟨span, spanned⟩ := Option.isSome_iff_exists.mp covered
  have role : opening.role = .quote := by simp [BlockToken.role, type]
  have markers := dropQuoteMarkers_eq (mapped span spanned)
  rw [spanned, quoteLines] at inner
  rw [enclose_append, length_enclose, readBlocks, if_neg (by simpa using starts),
    Sibling.after_eq mapped, rawText_eq mapped, role]
  simp only [bind, Except.bind, spanned, markers, inner, drop_closing, later]
  rfl

end step

mutual

/-- Reading the tokens of a tree adds its block to what is read behind it. -/
theorem readBlocks_tokens (node : BlockNode) {stops lines : List String} {sibling : Sibling}
    {rest : List BlockToken} {found : List Block} {count : Nat}
    (formed : node.WellFormed lines.length) (starts : node.opening.type ∉ stops)
    (later : readBlocks stops lines (sibling.past lines node.opening) rest = .ok (found, count)) :
    readBlocks stops lines sibling (node.tokens ++ rest) =
      .ok (sibling.gap lines node.opening ++ node.decoded lines :: found,
        count + node.tokens.length) := by
  cases node with
  | heading level opening inline closing => exact readBlocks_heading formed starts later
  | paragraph opening inline closing => exact readBlocks_paragraph formed starts later
  | leaf role token => exact readBlocks_leaf formed starts later
  | list ordered opening content closing => exact readBlocks_list formed starts later
  | table tokens => exact readBlocks_table formed starts later
  | quote opening children closing =>
      obtain ⟨-, -, -, closes, others, inside⟩ := id formed
      have width : (quoteLines lines opening.span).length = lines.length :=
        length_quoteLines lines opening.span
      have halts : Halts ["blockquote_close"] (closing :: rest) := by
        simp [Halts, closes]
      have inner := readBlocks_flatten children {} (width ▸ inside) (by simpa using others) halts
      exact readBlocks_quote formed starts inner later
  | unknown opening content closing => exact readBlocks_unknown formed starts later

/-- Reading the tokens of a forest gives its blocks and stops behind its last token. -/
theorem readBlocks_flatten (forest : List BlockNode) {stops lines : List String}
    (sibling : Sibling) {rest : List BlockToken} (formed : allWellFormed lines.length forest)
    (starts : ∀ node ∈ forest, node.opening.type ∉ stops) (halts : Halts stops rest) :
    readBlocks stops lines sibling (flatten forest ++ rest) =
      .ok (decodedAll lines sibling forest, (flatten forest).length) := by
  cases forest with
  | nil => exact readBlocks_of_halts halts lines sibling
  | cons node forest =>
      obtain ⟨first, others⟩ := List.forall_mem_cons.mp starts
      have later :=
        readBlocks_flatten forest (sibling.past lines node.opening) formed.2 others halts
      rw [flatten, List.append_assoc, readBlocks_tokens node formed.1 first later,
        List.length_append, Nat.add_comm]
      rfl

end

end BlockNode

/-! ## Blank lines -/

/-- Whether a block is a blank line. -/
def Block.isSpace : Block → Bool
  | space _ => true
  | _ => false

mutual

/-- A block without the blank lines inside it, at any depth. -/
def Block.withoutSpaces : Block → Block
  | quote blocks raw => quote (Block.allWithoutSpaces blocks) raw
  | block => block

/-- Blocks without blank lines, at any depth. -/
def Block.allWithoutSpaces : List Block → List Block
  | [] => []
  | block :: blocks =>
      if block.isSpace then Block.allWithoutSpaces blocks
      else block.withoutSpaces :: Block.allWithoutSpaces blocks

end

/-- Blank lines in front of other blocks leave nothing. -/
theorem Block.allWithoutSpaces_append {spaces : List Block} (blocks : List Block)
    (blank : ∀ block ∈ spaces, block.isSpace) :
    Block.allWithoutSpaces (spaces ++ blocks) = Block.allWithoutSpaces blocks := by
  induction spaces with
  | nil => rfl
  | cons space spaces induction =>
      obtain ⟨first, others⟩ := List.forall_mem_cons.mp blank
      rw [List.cons_append, Block.allWithoutSpaces, if_pos first, induction others]

/-- Between two siblings stand blank lines only. -/
theorem Sibling.isSpace_gap (lines : List String) (sibling : Sibling) (token : BlockToken) :
    ∀ block ∈ sibling.gap lines token, block.isSpace := by
  intro block member
  unfold Sibling.gap at member
  split at member
  · split at member
    · cases member
    · obtain ⟨line, -, rfl⟩ := List.mem_map.mp member
      rfl
  · cases member

theorem paragraphBlock_withoutSpaces (inlines : List Inline) (raw : String) :
    (paragraphBlock inlines raw).isSpace = false ∧
      (paragraphBlock inlines raw).withoutSpaces = paragraphBlock inlines raw := by
  unfold paragraphBlock
  split <;> exact ⟨rfl, by rw [Block.withoutSpaces]; rintro blocks raw ⟨⟩⟩

namespace BlockNode

/-- No tree stands for a blank line. -/
theorem isSpace_decoded (lines : List String) (node : BlockNode) :
    (node.decoded lines).isSpace = false := by
  cases node with
  | paragraph opening inline closing => exact (paragraphBlock_withoutSpaces _ _).1
  | leaf role token => cases role <;> rfl
  | _ => rfl

mutual

/-- The block that is read from a tree is its block, but for blank lines. -/
theorem withoutSpaces_decoded (lines : List String) (node : BlockNode) :
    (node.decoded lines).withoutSpaces = node.block lines := by
  cases node with
  | paragraph opening inline closing => exact (paragraphBlock_withoutSpaces _ _).2
  | leaf role token => cases role <;> rfl
  | quote opening children closing =>
      rw [decoded, Block.withoutSpaces, withoutSpaces_decodedAll, block]
  | _ => rfl

theorem withoutSpaces_decodedAll (lines : List String) (sibling : Sibling)
    (forest : List BlockNode) :
    Block.allWithoutSpaces (decodedAll lines sibling forest) = blocks lines forest := by
  cases forest with
  | nil => rfl
  | cons node forest =>
      have gap := sibling.isSpace_gap lines node.opening
      rw [decodedAll, Block.allWithoutSpaces_append _ gap, Block.allWithoutSpaces,
        isSpace_decoded, withoutSpaces_decoded, withoutSpaces_decodedAll]
      rfl

end

end BlockNode

/-- A flattened forest inside a longer stream is read up to its last token. -/
theorem Block.ofTokens_embedded {stops lines : List String} {before after : List BlockToken}
    {forest : List BlockNode} (formed : BlockNode.allWellFormed lines.length forest)
    (starts : ∀ node ∈ forest, node.opening.type ∉ stops) (halts : Halts stops after) :
    Block.ofTokens stops lines (before ++ (BlockNode.flatten forest ++ after)) before.length =
      .ok (BlockNode.decodedAll lines {} forest,
        (before.length + (BlockNode.flatten forest).length : Nat)) := by
  rw [Block.ofTokens, tokensFrom?_length]
  simp only [bind, Except.bind, BlockNode.readBlocks_flatten forest {} formed starts halts]
  rfl

/-- A stream that is a flattened forest is read to its end. -/
theorem Block.ofTokens_stream {stops lines : List String} {forest : List BlockNode}
    (formed : BlockNode.allWellFormed lines.length forest)
    (starts : ∀ node ∈ forest, node.opening.type ∉ stops) :
    Block.ofTokens stops lines (BlockNode.flatten forest) 0 =
      .ok (BlockNode.decodedAll lines {} forest, (BlockNode.flatten forest).length) := by
  have halts : Halts stops [] := by simp [Halts]
  have read := @Block.ofTokens_embedded stops lines [] [] forest formed starts halts
  simpa using read

/-- Every flattened forest is read without an error, from its first token on and up to its last one,
whether the stream ends there or goes on with a token of a stop type.  Without blank lines, its
blocks are one for each tree, and the same holds inside quotes. -/
theorem Block.ofTokens_flatten {stops lines : List String} {before after : List BlockToken}
    {forest : List BlockNode} (formed : BlockNode.allWellFormed lines.length forest)
    (starts : ∀ node ∈ forest, node.opening.type ∉ stops)
    (halts : ∀ token ∈ after.head?, token.type ∈ stops) :
    ∃ blocks,
      Block.ofTokens stops lines (before ++ (BlockNode.flatten forest ++ after)) before.length =
        .ok (blocks, (before.length + (BlockNode.flatten forest).length : Nat)) ∧
      Block.allWithoutSpaces blocks = forest.map (BlockNode.block lines) := by
  refine ⟨BlockNode.decodedAll lines {} forest, ofTokens_embedded formed starts halts, ?_⟩
  rw [BlockNode.withoutSpaces_decodedAll, BlockNode.blocks_eq_map]

/-- The lines of a quote with a heading and a list, and of a rule behind it. -/
def quotedLines : List String :=
  ["> ## a", ">", "> - b", "", "---"]

/-- A quote with a heading and a list, and a rule behind it. -/
def quotedForest : List BlockNode :=
  [.quote { type := "blockquote_open", nesting := 1, span := some (0, 4) }
      [.heading 1
          { type := "heading_open", tag := "h2", nesting := 1, level := 1, span := some (0, 1) }
          { type := "inline", level := 2, children := [{ type := "text", content := "a" }] }
          { type := "heading_close", nesting := -1, level := 1 },
        .list false { type := "bullet_list_open", nesting := 1, level := 1, span := some (2, 3) }
          [{ type := "list_item_open", nesting := 1, level := 2 },
            { type := "list_item_close", nesting := -1, level := 2 }]
          { type := "bullet_list_close", nesting := -1, level := 1 }]
      { type := "blockquote_close", nesting := -1 },
    .leaf .rule { type := "hr", span := some (4, 5) }]

theorem quotedForest_wellFormed : BlockNode.allWellFormed quotedLines.length quotedForest := by
  have within {first last : Int} (nonneg : 0 ≤ first) (ordered : first ≤ last) (inside : last ≤ 5) :
      Span.Within quotedLines.length (first, last) :=
    ⟨nonneg, ordered, inside⟩
  have list : Encloses { type := "bullet_list_open", nesting := 1, level := 1, span := some (2, 3) }
      [{ type := "list_item_open", nesting := 1, level := 2 },
        { type := "list_item_close", nesting := -1, level := 2 }]
      { type := "bullet_list_close", nesting := -1, level := 1 } :=
    ⟨by simp, rfl, rfl⟩
  have tag : "h" ++ Nat.repr 2 = "h2" := by decide
  simp [quotedForest, BlockNode.allWellFormed, BlockNode.WellFormed, BlockToken.Mapped,
    LeafRole.Admits, BlockNode.opening, within, list, tag]

/-- A forest inside a longer stream is read up to the token that stops it. -/
theorem Block.ofTokens_flatten_quote :
    ∃ blocks,
      Block.ofTokens ["section_close"] quotedLines
        ([{ type := "section_open", nesting := 1 }] ++
          (BlockNode.flatten quotedForest ++ [{ type := "section_close", nesting := -1 }])) 1 =
        .ok (blocks, 11) ∧
      Block.allWithoutSpaces blocks =
        [.quote [.heading 2 [.literal .plain "a" "a"] "## a", .list false "- b"]
            "> ## a\n>\n> - b",
          .rule "---"] :=
  Block.ofTokens_flatten quotedForest_wellFormed (by simp [quotedForest, BlockNode.opening])
    (by simp)

end CardPress
