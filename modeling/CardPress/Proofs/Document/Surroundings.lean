import CardPress.Proofs.Document.BlockSteps
import CardPress.Proofs.Document.SiblingLines

/-!
# Lines around a page

Tokens are read against the lines that they cover, and against no others.  The central theorem puts
any lines in front of a page and behind it, and moves the tokens of the page with its lines:
whatever the tokens are, they are read as the same blocks, up to the same index, or fail in the
same way.
-/

namespace CardPress

/-- A span that is moved down by a number of lines. -/
def Span.moved (count : Nat) (span : Span) : Span :=
  (span.1 + count, span.2 + count)

/-- A token that covers lines further down. -/
def BlockToken.moved (count : Nat) (token : BlockToken) : BlockToken :=
  { token with span := token.span.map (Span.moved count) }

/-- What is known of siblings whose lines stand further down. -/
def Sibling.moved (count : Nat) (sibling : Sibling) : Sibling :=
  { sibling with stop := sibling.stop.map (· + (count : Int)) }

/-! ## Lines of a span -/

section lines

variable (before after : List String) {lines : List String} {span : Span}

theorem Span.Within.moved (within : Span.Within lines.length span) :
    Span.Within (before ++ (lines ++ after)).length (Span.moved before.length span) := by
  obtain ⟨nonneg, ordered, inside⟩ := within
  constructor <;> simp only [Span.moved, List.length_append] <;> omega

/-- The lines from a position on, when other lines stand in front. -/
theorem drop_surrounded (start : Nat) (inside : start ≤ lines.length) :
    (before ++ (lines ++ after)).drop (start + before.length) = lines.drop start ++ after := by
  rw [Nat.add_comm, ← List.drop_drop, List.drop_left, List.drop_append_of_le_length inside]

/-- The lines up to a position, when other lines stand in front. -/
theorem take_surrounded (stop : Nat) (inside : stop ≤ lines.length) :
    (before ++ (lines ++ after)).take (stop + before.length) = before ++ lines.take stop := by
  rw [Nat.add_comm, List.take_length_add_append, List.take_append_of_le_length inside]

theorem slice_surrounded {start stop : Int} (nonneg : 0 ≤ start) (start_le : start ≤ lines.length)
    (stop_nonneg : 0 ≤ stop) (stop_le : stop ≤ lines.length) :
    Text.slice (before ++ (lines ++ after)) (start + before.length) (stop + before.length) =
      Text.slice lines start stop := by
  obtain ⟨start, rfl⟩ := Int.eq_ofNat_of_zero_le nonneg
  obtain ⟨stop, rfl⟩ := Int.eq_ofNat_of_zero_le stop_nonneg
  rw [← Int.natCast_add, ← Int.natCast_add, slice_ofNat, slice_ofNat,
    take_surrounded before after stop (by omega), Nat.add_comm, ← List.drop_drop, List.drop_left]

/-- The content of a span does not depend on the lines around. -/
theorem contentLines_surrounded (within : Span.Within lines.length span) :
    contentLines (before ++ (lines ++ after)) (Span.moved before.length span) =
      contentLines lines span := by
  obtain ⟨start, width, rfl, inside⟩ := within.exists_eq
  have first : ((start : Int) + before.length).toNat = start + before.length := by omega
  have distance : (((start + width : Nat) : Int) + before.length -
      ((start : Int) + before.length)).toNat = width := by
    omega
  have alone : (((start + width : Nat) : Int) - (start : Int)).toNat = width := by omega
  have enough : width ≤ (lines.drop start).length := by
    rw [List.length_drop]
    omega
  simp only [contentLines, Span.moved]
  rw [first, distance, alone, Int.toNat_natCast, drop_surrounded before after start (by omega),
    List.take_append_of_le_length enough]

theorem sourceText_surrounded {span : Option Span}
    (within : ∀ covered ∈ span, Span.Within lines.length covered) :
    sourceText (before ++ (lines ++ after)) (span.map (Span.moved before.length)) =
      sourceText lines span := by
  cases span with
  | none => rfl
  | some span =>
      rw [Option.map_some, sourceText, sourceText,
        contentLines_surrounded before after (within span rfl)]

/-- Inside a quote, the lines around the page are left as they are. -/
theorem innerLines_surrounded (within : Span.Within lines.length span) :
    innerLines (before ++ (lines ++ after)) (Span.moved before.length span) =
      before ++ (innerLines lines span ++ after) := by
  obtain ⟨nonneg, ordered, inside⟩ := within
  unfold innerLines Span.moved
  rw [List.mapIdx_append, List.mapIdx_append]
  have kept {part : List String} {change : Nat → String → String}
      (same : ∀ index line, index < part.length → change index line = line) :
      part.mapIdx change = part :=
    List.ext_getElem List.length_mapIdx fun index _ below => by
      rw [List.getElem_mapIdx, same index _ below]
  congr 1
  · exact kept fun index line below => if_neg (by omega)
  · congr 1
    · congr 1
      funext index line
      congr 1
      simp only [eq_iff_iff]
      omega
    · exact kept fun index line below => if_neg (by omega)

end lines

/-! ## Siblings -/

section siblings

variable (before after : List String) {lines : List String} {sibling : Sibling}
  {token : BlockToken}

/-- The last sibling ends within the lines. -/
def Sibling.Within (count : Nat) (sibling : Sibling) : Prop :=
  ∀ stop ∈ sibling.stop, 0 ≤ stop ∧ stop ≤ count

theorem BlockToken.Mapped.moved (mapped : token.Mapped lines.length) :
    (token.moved before.length).Mapped (before ++ (lines ++ after)).length := by
  intro span member
  obtain ⟨covered, spanned, rfl⟩ := Option.map_eq_some_iff.mp member
  exact (mapped covered spanned).moved before after

theorem Sibling.Within.past (within : sibling.Within lines.length)
    (mapped : token.Mapped lines.length) : (sibling.past lines token).Within lines.length := by
  unfold Sibling.past
  cases spanned : token.span with
  | none => exact within
  | some span =>
      rintro stop ⟨⟩
      obtain ⟨nonneg, ordered, inside⟩ := mapped span spanned
      have shorter := length_contentLines_le lines span
      omega

/-- What is known of siblings moves with them. -/
theorem Sibling.past_moved (mapped : token.Mapped lines.length) :
    (sibling.moved before.length).past (before ++ (lines ++ after)) (token.moved before.length) =
      (sibling.past lines token).moved before.length := by
  unfold Sibling.past
  cases spanned : token.span with
  | none => simp [BlockToken.moved, spanned]
  | some span =>
      have same := contentLines_surrounded before after (mapped span spanned)
      simp only [BlockToken.moved, spanned, Option.map_some, same, Sibling.moved]
      simp [Span.moved]
      omega

/-- Between two siblings stand the same blank lines, wherever their lines stand. -/
theorem Sibling.gap_moved (within : sibling.Within lines.length)
    (mapped : token.Mapped lines.length) :
    (sibling.moved before.length).gap (before ++ (lines ++ after)) (token.moved before.length) =
      sibling.gap lines token := by
  obtain ⟨stop, isRule⟩ := sibling
  cases spanned : token.span with
  | none => simp [Sibling.gap, BlockToken.moved, spanned]
  | some span =>
      cases stop with
      | none => simp [Sibling.gap, Sibling.moved, BlockToken.moved, spanned]
      | some stop =>
          obtain ⟨nonneg, inside⟩ := within stop rfl
          obtain ⟨start_nonneg, ordered, stop_le⟩ := mapped span spanned
          have same := slice_surrounded before after nonneg inside start_nonneg (by omega)
          simp only [Sibling.gap, Sibling.moved, BlockToken.moved, spanned, Option.map_some,
            spacesBetween, Span.moved, same]

end siblings

/-! ## Tokens behind a block -/

section tokens

variable (count : Nat) (rest : List BlockToken)

theorem contentOf_moved : contentOf (rest.map (BlockToken.moved count)) = contentOf rest := by
  cases rest <;> rfl

theorem closeDistance_moved (level : Int) :
    closeDistance level (rest.map (BlockToken.moved count)) = closeDistance level rest := by
  rw [closeDistance, closeDistance, List.findIdx?_map, List.length_map]
  rfl

@[simp]
theorem BlockToken.type_moved (token : BlockToken) : (token.moved count).type = token.type :=
  rfl

theorem readHead_moved : readHead (rest.map (BlockToken.moved count)) = readHead rest := by
  fun_induction readHead rest with
  | case1 => rw [List.map_nil, readHead]
  | case2 token rest ends => simp [readHead, ends]
  | case3 token rest inside opens induction =>
      simp [readHead, opens, contentOf_moved, ← List.map_drop, induction]
  | case4 token rest inside other induction => simp [readHead, inside, other, induction]

theorem readRow_moved : readRow (rest.map (BlockToken.moved count)) = readRow rest := by
  fun_induction readRow rest with
  | case1 => rw [List.map_nil, readRow]
  | case2 token rest ends => simp [readRow, ends]
  | case3 token rest inside opens induction =>
      simp [readRow, inside, opens, contentOf_moved, ← List.map_drop, induction]
  | case4 token rest inside other induction => simp [readRow, inside, other, induction]

theorem readRows_moved : readRows (rest.map (BlockToken.moved count)) = readRows rest := by
  fun_induction readRows rest with
  | case1 => rw [List.map_nil, readRows]
  | case2 token rest ends => simp [readRows, ends]
  | case3 token rest inside opens induction =>
      simp [readRows, opens, readRow_moved, ← List.map_drop, induction]
  | case4 token rest inside other induction => simp [readRows, inside, other, induction]

/-- A table has the same cells, and as many tokens, wherever its lines stand. -/
theorem readTable_moved : readTable (rest.map (BlockToken.moved count)) = readTable rest := by
  fun_induction readTable rest with
  | case1 => rw [List.map_nil, readTable]
  | case2 token rest opens induction =>
      simp [readTable, opens, readHead_moved, ← List.map_drop, induction]
  | case3 token rest other opens induction =>
      simp [readTable, opens, readRows_moved, ← List.map_drop, induction]
  | case4 token rest other strange ends => simp [readTable, ends]
  | case5 token rest other strange inside induction =>
      simp [readTable, other, strange, inside, induction]

end tokens

/-! ## Blocks -/

section blocks

variable (before after : List String) {stops lines : List String} {sibling : Sibling}
  {token : BlockToken} {rest tokens : List BlockToken}

/-- A token starts the same block wherever its lines stand, if what is inside a quote is read
alike. -/
theorem readBlock_moved (mapped : token.Mapped lines.length)
    (inner : ∀ span ∈ token.span,
      readBlocks ["blockquote_close"] (before ++ (innerLines lines span ++ after)) {}
          (rest.map (BlockToken.moved before.length)) =
        readBlocks ["blockquote_close"] (innerLines lines span) {} rest) :
    readBlock (before ++ (lines ++ after)) (token.moved before.length)
        (rest.map (BlockToken.moved before.length)) =
      readBlock lines token rest := by
  have source : sourceText (before ++ (lines ++ after)) (token.moved before.length).span =
      sourceText lines token.span :=
    sourceText_surrounded before after mapped
  have role : (token.moved before.length).role = token.role := rfl
  rw [readBlock, readBlock, rawText_eq (mapped.moved before after), rawText_eq mapped, source, role]
  cases token.role with
  | heading => simp only [contentOf_moved]; rfl
  | paragraph => simp only [contentOf_moved]
  | list ordered => simp only [closeDistance_moved]; rfl
  | table => simp only [readTable_moved]
  | quote =>
      cases spanned : token.span with
      | none => simp [BlockToken.moved, spanned]
      | some span =>
          have within := mapped span spanned
          have markers := dropQuoteMarkers_eq (within.moved before after)
          rw [innerLines_surrounded before after within] at markers
          have covered :
              (token.moved before.length).span = some (Span.moved before.length span) := by
            simp [BlockToken.moved, spanned]
          simp only [covered, markers, dropQuoteMarkers_eq within, bind, Except.bind,
            inner span spanned]
  | unknownContainer kind => simp only [closeDistance_moved]; rfl
  | _ => rfl

/-- Whatever tokens are read, they are read alike wherever their lines stand. -/
theorem readBlocks_moved (within : sibling.Within lines.length)
    (mapped : ∀ token ∈ tokens, token.Mapped lines.length) :
    readBlocks stops (before ++ (lines ++ after)) (sibling.moved before.length)
        (tokens.map (BlockToken.moved before.length)) =
      readBlocks stops lines sibling tokens := by
  -- The tokens behind a block and those inside a quote are read alike; both are fewer.
  induction counted : tokens.length using Nat.strong_induction_on
    generalizing stops lines sibling tokens with
  | _ number induction =>
      cases tokens with
      | nil => rw [List.map_nil, readBlocks, readBlocks]
      | cons token rest =>
          rw [List.length_cons] at counted
          obtain ⟨here, others⟩ := List.forall_mem_cons.mp mapped
          rw [List.map_cons]
          by_cases halts : token.type ∈ stops
          · rw [readBlocks_of_halts (by simpa [Halts] using halts),
              readBlocks_of_halts (by simpa [Halts] using halts)]
          have first : readBlock (before ++ (lines ++ after)) (token.moved before.length)
              (rest.map (BlockToken.moved before.length)) = readBlock lines token rest := by
            refine readBlock_moved before after here fun span spanned => ?_
            have inside : ∀ token ∈ rest, token.Mapped (innerLines lines span).length := by
              rwa [length_innerLines]
            have nothing : ({} : Sibling).Within (innerLines lines span).length := by
              rintro stop ⟨⟩
            exact induction rest.length (by omega) nothing inside rfl
          have behind (width : Nat) :
              readBlocks stops (before ++ (lines ++ after))
                  ((sibling.past lines token).moved before.length)
                  ((rest.map (BlockToken.moved before.length)).drop width) =
                readBlocks stops lines (sibling.past lines token) (rest.drop width) := by
            have fewer : (rest.drop width).length < number := by
              rw [List.length_drop]
              omega
            rw [← List.map_drop]
            exact induction _ fewer (within.past here)
              (fun token member => others token (List.mem_of_mem_drop member)) rfl
          rw [readBlocks_cons (by simpa using halts), readBlocks_cons halts,
            Sibling.after_eq (here.moved before after), Sibling.after_eq here,
            Sibling.past_moved before after here, Sibling.gap_moved before after within here, first]
          simp only [bind, Except.bind, behind]

end blocks

/-- Tokens are read against the lines that they cover and no others.  Whatever the tokens are, and
whatever lines are put in front of a page and behind it, the moved tokens give the same blocks up to
the same index, or the same error.  Tokens in front of those that are read do not matter either. -/
theorem Block.ofTokens_surrounded (stops lines before after : List String)
    {tokens : List BlockToken} (mapped : ∀ token ∈ tokens, token.Mapped lines.length) :
    (∀ index : Int,
      Block.ofTokens stops (before ++ (lines ++ after))
          (tokens.map (BlockToken.moved before.length)) index =
        Block.ofTokens stops lines tokens index) ∧
    ∀ (skipped : List BlockToken) (index : Nat),
      Block.ofTokens stops (before ++ (lines ++ after))
          (skipped ++ tokens.map (BlockToken.moved before.length)) (skipped.length + index : Nat) =
        (Block.ofTokens stops lines tokens index).map fun (blocks, stop) =>
          (blocks, skipped.length + stop) := by
  have alike {rest : List BlockToken} (inside : ∀ token ∈ rest, token ∈ tokens) :
      readBlocks stops (before ++ (lines ++ after)) {}
          (rest.map (BlockToken.moved before.length)) =
        readBlocks stops lines {} rest := by
    have nothing : ({} : Sibling).Within lines.length := by rintro stop ⟨⟩
    exact readBlocks_moved before after nothing fun token member =>
      mapped token (inside token member)
  constructor
  · intro index
    rw [Block.ofTokens, Block.ofTokens, tokensFrom?_map]
    cases found : tokensFrom? tokens index with
    | error error => rfl
    | ok rest => simp only [Except.map, bind, Except.bind, alike (mem_of_tokensFrom? found)]
  · intro skipped index
    have behind : (skipped ++ tokens.map (BlockToken.moved before.length)).drop
        (skipped.length + index) = (tokens.drop index).map (BlockToken.moved before.length) := by
      rw [← List.drop_drop, List.drop_left, List.map_drop]
    rw [Block.ofTokens, Block.ofTokens, tokensFrom?_ofNat, tokensFrom?_ofNat, behind]
    simp only [bind, Except.bind, alike fun token => List.mem_of_mem_drop]
    cases readBlocks stops lines {} (tokens.drop index) with
    | error error => rfl
    | ok found =>
        obtain ⟨blocks, count⟩ := found
        simp only [Except.map, pure, Except.pure, Int.natCast_add, Int.add_assoc]

/-- A quote with a blank line in it, and a line of code. -/
def looseLines : List String :=
  ["> a", ">", "> b", "", "    c"]

/-- A quote that is closed twice, and a line of code. -/
def looseTokens : List BlockToken :=
  [{ type := "blockquote_open", nesting := 1, span := some (0, 3) },
    { type := "html_block", content := "a", span := some (0, 1) },
    { type := "html_block", content := "b", span := some (2, 3) },
    { type := "blockquote_close", nesting := -1 },
    { type := "blockquote_close", nesting := -1 },
    { type := "code_block", content := "c\n", span := some (4, 5) }]

/-- The blocks of the loose tokens, with a blank line inside the quote and one behind it. -/
def looseBlocks : List Block :=
  [.quote [.html "a", .space "\n", .html "b"] "> a\n>\n> b", .space "\n",
    .code none "c" "    c"]

/-- Below front matter, which is skipped, and above a last line, the loose tokens are read as they
are read alone. -/
theorem Block.ofTokens_surrounded_frontMatter :
    (∀ token ∈ looseTokens, token.Mapped looseLines.length) ∧
      Block.ofTokens [] looseLines looseTokens 0 = .ok (looseBlocks, 6) ∧
      Block.ofTokens [] (["---", "lang: de", "---"] ++ (looseLines ++ ["", "> d"]))
          ([{ type := "front_matter", content := "lang: de", span := some (0, 3) }] ++
            looseTokens.map (BlockToken.moved 3)) 1 =
        .ok (looseBlocks, 7) := by
  have mapped : ∀ token ∈ looseTokens, token.Mapped looseLines.length := by
    have within {first last : Int} (nonneg : 0 ≤ first) (ordered : first ≤ last)
        (inside : last ≤ 5) : Span.Within looseLines.length (first, last) :=
      ⟨nonneg, ordered, inside⟩
    simp [looseTokens, BlockToken.Mapped, within]
  have alone : Block.ofTokens [] looseLines looseTokens 0 = .ok (looseBlocks, 6) := by
    with_unfolding_all rfl
  have below := (Block.ofTokens_surrounded [] looseLines ["---", "lang: de", "---"] ["", "> d"]
    mapped).2 [{ type := "front_matter", content := "lang: de", span := some (0, 3) }] 0
  rw [Int.natCast_zero, alone] at below
  exact ⟨mapped, alone, below⟩

end CardPress
