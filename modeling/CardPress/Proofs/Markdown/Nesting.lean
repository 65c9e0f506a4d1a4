import CardPress.Proofs.Document.Changes
import CardPress.Proofs.Document.Decode
import CardPress.Proofs.Markdown.Containers
import CardPress.Proofs.Markdown.Tables

/-!
# Nesting of Markdown tokens

The tokens of a Markdown text are well nested, over the lines of the text.  Each function that reads
a block moves forward within the text, and what it reads is a forest on the level of its region, if
the reader that it is given for the content of containers does so.  Therefore reading a text as
blocks never fails, whatever the text is.
-/

namespace CardPress
namespace Markdown

/-- A function that reads forests on the level of the region, and moves forward within the text. -/
def ReadsForests (count : Nat) (inner : Reader) : Prop :=
  ∀ (region : Region) (start limit : Nat), region.Stands count → start ≤ limit → limit ≤ count →
    (inner region start limit).Covers count region.level start

namespace Region

section readers

variable {count start limit : Nat} {region : Region} {reading : Reading}

/-! ## Leaf blocks -/

theorem code?_covers (below : start < limit) (inside : limit ≤ count)
    (found : region.code? start limit = some reading) :
    reading.Covers count region.level start := by
  rw [code?, Option.ite_none_right_eq_some] at found
  obtain ⟨-, equal⟩ := found
  cases equal
  have bounds := region.codeEnd_bounds limit (Nat.le_refl (start + 1))
  exact .leaf (by omega) (by omega) .code (.inr rfl) trivial rfl rfl

theorem fence?_covers (below : start < limit) (inside : limit ≤ count)
    (found : region.fence? start limit = some reading) :
    reading.Covers count region.level start := by
  rw [fence?, Option.ite_none_left_eq_some] at found
  obtain ⟨-, found⟩ := found
  obtain ⟨fence, -, rfl⟩ := Option.map_eq_some_iff.mp found
  have bounds := region.fenceEnd_bounds fence below
  generalize region.fenceEnd fence limit (start + 1) = ending at bounds
  obtain ⟨stop, isClosed⟩ := ending
  obtain ⟨first, last, closed⟩ := bounds
  cases isClosed with
  | false =>
      exact .leaf (Nat.le_of_succ_le first) (Nat.le_trans last inside) .code (.inl rfl)
        trivial rfl rfl
  | true =>
      have fence : stop < limit := closed rfl
      exact .leaf (Nat.le_succ_of_le (Nat.le_of_succ_le first)) (Nat.le_trans fence inside) .code
        (.inl rfl) trivial rfl rfl

theorem break?_covers (below : start < limit) (inside : limit ≤ count)
    (found : region.break? start = some reading) : reading.Covers count region.level start := by
  rw [break?, Option.ite_none_left_eq_some] at found
  obtain ⟨-, found⟩ := found
  obtain ⟨mark, -, rfl⟩ := Option.map_eq_some_iff.mp found
  exact .leaf (Nat.le_succ start) (Nat.le_trans below inside) .rule rfl trivial rfl rfl

theorem html?_covers (below : start < limit) (inside : limit ≤ count)
    (found : region.html? start limit = some reading) :
    reading.Covers count region.level start := by
  rw [html?, Option.ite_none_left_eq_some] at found
  obtain ⟨-, found⟩ := found
  obtain ⟨block, -, rfl⟩ := Option.map_eq_some_iff.mp found
  have bounds := region.htmlEnd_bounds block limit (start + 1)
  have forward : start ≤ if block.endsWith (region.content start) then start + 1
      else region.htmlEnd block limit (start + 1) := by
    split <;> omega
  have within : (if block.endsWith (region.content start) then start + 1
      else region.htmlEnd block limit (start + 1)) ≤ count := by
    split <;> omega
  exact .leaf forward within .html rfl trivial rfl rfl

theorem definition?_covers (stands : region.Stands count) (below : start < limit)
    (inside : limit ≤ count) (found : region.definition? start = some reading) :
    reading.Covers count region.level start := by
  obtain ⟨forward, within⟩ :=
    definition?_bounds stands (Nat.lt_of_lt_of_le below inside) found
  rw [definition?, Option.ite_none_left_eq_some] at found
  obtain ⟨-, found⟩ := found
  obtain ⟨⟨info, lines⟩, -, rfl⟩ := Option.map_eq_some_iff.mp found
  exact .leaf (Nat.le_of_succ_le forward) within .definition rfl trivial rfl rfl

theorem frontMatter?_covers (inside : limit ≤ count)
    (found : region.frontMatter? start limit = some reading) :
    reading.Covers count region.level start := by
  rw [frontMatter?, Option.ite_none_left_eq_some] at found
  obtain ⟨-, found⟩ := found
  obtain ⟨⟨stop, isClosed⟩, ends, rfl⟩ := Option.map_eq_some_iff.mp found
  obtain ⟨first, last⟩ := region.frontMatterEnd?_bounds ends
  have admits (token : BlockToken) (nesting : token.nesting = 0)
      (type : token.type = "front_matter") : LeafRole.unknown.Admits token := by
    refine ⟨nesting, ?_⟩
    rw [type]
    decide
  cases isClosed with
  | false =>
      exact .leaf (Nat.le_of_succ_le first) (Nat.le_trans (Nat.le_of_lt last) inside) .unknown
        (admits _ rfl rfl) rfl rfl rfl
  | true =>
      exact .leaf (Nat.le_succ_of_le (Nat.le_of_succ_le first)) (Nat.le_trans last inside) .unknown
        (admits _ rfl rfl) rfl rfl rfl

/-! ## Headings and paragraphs -/

theorem heading?_covers (below : start < limit) (inside : limit ≤ count)
    (found : region.heading? start = some reading) : reading.Covers count region.level start := by
  rw [heading?, Option.ite_none_left_eq_some] at found
  obtain ⟨-, found⟩ := found
  obtain ⟨⟨depth, text⟩, level, rfl⟩ := Option.map_eq_some_iff.mp found
  obtain ⟨low, high⟩ := level_of_heading? level
  exact .heading (Nat.le_succ start) (Nat.le_trans below inside) low high _ _

theorem underlined?_covers (inside : limit ≤ count)
    (found : region.underlined? start limit = some reading) :
    reading.Covers count region.level start := by
  rw [underlined?, Option.ite_none_left_eq_some] at found
  obtain ⟨-, found⟩ := found
  obtain ⟨⟨stop, depth⟩, underline, rfl⟩ := Option.map_eq_some_iff.mp found
  obtain ⟨first, last, level⟩ := region.underline?_bounds underline
  exact .heading (Nat.le_succ_of_le (Nat.le_of_succ_le first)) (Nat.le_trans last inside)
    (by omega) (by omega) _ _

theorem paragraph_covers (stands : region.Stands count) (below : start < limit)
    (inside : limit ≤ count) : (region.paragraph start).Covers count region.level start := by
  have bounds := region.paragraphEnd_bounds (start + 1)
  have within := stands.stop_le
  exact .paragraph (by omega) (by omega) _ _

/-! ## Containers -/

/-- An empty line that follows a block is still one of the lines. -/
theorem pastEmpty_bounds {next : Nat} (empty : Bool) (inside : limit ≤ count)
    (within : next ≤ count) :
    next ≤ (if next < limit && empty then next + 1 else next) ∧
      (if next < limit && empty then next + 1 else next) ≤ count := by
  split
  · next gap =>
    simp only [Bool.and_eq_true, decide_eq_true_eq] at gap
    omega
  · exact ⟨Nat.le_refl _, within⟩

section containers

variable {inner : Reader} (reads : ReadsForests count inner)

include reads

theorem quote?_covers (stands : region.Stands count) (below : start < limit)
    (inside : limit ≤ count) (found : region.quote? inner start limit = some reading) :
    reading.Covers count region.level start := by
  rw [quote?_eq] at found
  obtain ⟨⟨content, stop⟩, placed, rfl⟩ := Option.map_eq_some_iff.mp found
  obtain ⟨within, level, forward, last⟩ := quoteRegion?_stands stands below inside placed
  have covered := reads content start stop within (Nat.le_of_lt forward) last
  exact .quote covered.start_le covered.next_le (level ▸ covered.nested)

/-- An item ends within the text, and its tokens lie deeper than the list. -/
theorem item_bounds (stands : region.Stands count) (below : start < limit) (inside : limit ≤ count)
    (marker : ListMarker) :
    start ≤ (region.item inner marker start limit).next ∧
      (region.item inner marker start limit).next ≤ count ∧
      Deep (region.level + 1) (region.item inner marker start limit).tokens := by
  rw [item_eq]
  cases placed : region.itemRegion? marker start with
  | none =>
      refine ⟨?_, ?_, Deep.enclose (by simp [Deep])⟩
      · change start ≤ min (start + 2) limit
        omega
      · change min (start + 2) limit ≤ count
        omega
  | some content =>
      obtain ⟨within, level⟩ := itemRegion?_stands stands placed
      obtain ⟨forward, last, nested⟩ := reads content start limit within (Nat.le_of_lt below) inside
      obtain ⟨-, -, -, -, deep⟩ := nested
      exact ⟨forward, last, (deep.mono (by omega)).enclose⟩

/-- The items of a list end within the text, and their tokens lie deeper than the list. -/
theorem items_bounds (stands : region.Stands count) (inside : limit ≤ count) (fuel : Nat)
    (marker : ListMarker) (below : start < limit) :
    start ≤ (region.items inner limit fuel marker start).next ∧
      (region.items inner limit fuel marker start).next ≤ count ∧
      Deep (region.level + 1) (region.items inner limit fuel marker start).tokens := by
  induction fuel generalizing marker start with
  | zero => exact ⟨Nat.le_refl _, by simp only [items]; omega, by simp [items, Deep]⟩
  | succ fuel induction =>
      have first := item_bounds reads stands below inside marker
      rw [items_succ]
      dsimp only
      split
      · next other marked =>
        obtain ⟨forward, last, deep⟩ := induction other (nextMarker?_lt marked)
        exact ⟨Nat.le_trans first.1 forward, last, first.2.2.append deep⟩
      · exact first

theorem list?_covers (stands : region.Stands count) (below : start < limit) (inside : limit ≤ count)
    (found : region.list? inner start limit = some reading) :
    reading.Covers count region.level start := by
  obtain ⟨marker, -, rfl⟩ := Option.map_eq_some_iff.mp found
  obtain ⟨forward, last, deep⟩ := items_bounds reads stands inside (limit - start) marker below
  cases ordered : marker.number.isSome with
  | false => exact .list forward last false "ul" deep
  | true => exact .list forward last true "ol" deep

/-! ## All blocks -/

/-- A block covers its lines, whatever it is. -/
theorem block_covers (stands : region.Stands count) (below : start < limit)
    (inside : limit ≤ count) :
    (region.block inner start limit).Covers count region.level start := by
  have choice {first second : Option Reading}
      (front : ∀ reading ∈ first, reading.Covers count region.level start)
      (back : ∀ reading ∈ second, reading.Covers count region.level start) :
      ∀ reading ∈ first <|> second, reading.Covers count region.level start := by
    cases first with
    | none => exact back
    | some reading => exact front
  have otherwise {reading? : Option Reading}
      (each : ∀ reading ∈ reading?, reading.Covers count region.level start) :
      (reading?.getD (region.paragraph start)).Covers count region.level start := by
    cases reading? with
    | none => exact paragraph_covers stands below inside
    | some reading => exact each reading rfl
  exact otherwise <|
    choice (fun _ => frontMatter?_covers inside) <|
    choice (fun _ => table?_covers inside) <|
    choice (fun _ => code?_covers below inside) <|
    choice (fun _ => fence?_covers below inside) <|
    choice (fun _ => quote?_covers reads stands below inside) <|
    choice (fun _ => break?_covers below inside) <|
    choice (fun _ => list?_covers reads stands below inside) <|
    choice (fun _ => definition?_covers stands below inside) <|
    choice (fun _ => html?_covers below inside) <|
    choice (fun _ => heading?_covers below inside) fun _ => underlined?_covers inside

/-- All blocks between two lines cover these lines. -/
theorem blocksWith_covers (stands : region.Stands count) (inside : limit ≤ count) (fuel : Nat)
    (within : start ≤ count) :
    (region.blocksWith inner limit fuel start).Covers count region.level start := by
  induction fuel generalizing start with
  | zero => exact .nothing (Nat.le_refl _) within
  | succ fuel induction =>
      have skipped := region.skipEmpty_bounds start
      have ends := stands.stop_le
      rw [blocksWith]
      dsimp only
      split
      · exact .nothing (Nat.le_refl _) within
      · split
        · exact .nothing skipped.1 (by omega)
        · next inward =>
          have filled : region.skipEmpty start < limit := by
            simp only [Bool.or_eq_true, decide_eq_true_eq, not_or, Nat.not_le] at inward
            exact inward.1
          split
          · exact .nothing (by omega) inside
          · have first := block_covers reads stands filled inside
            generalize region.block inner (region.skipEmpty start) limit = reading at first
            obtain ⟨reached, onward⟩ :=
              pastEmpty_bounds (region.isEmpty reading.next) inside first.next_le
            have rest := induction onward
            exact ⟨skipped.1.trans (first.start_le.trans (reached.trans rest.start_le)),
              rest.next_le, first.nested.append rest.nested⟩

end containers

end readers

/-- Blocks are read as forests, however deep they may be nested. -/
theorem readsForests_blocks (count depth : Nat) : ReadsForests count (blocks depth) := by
  induction depth with
  | zero => exact fun region start limit stands below inside => .nothing below inside
  | succ depth induction =>
      exact fun region start limit stands below inside =>
        blocksWith_covers induction stands inside _ (Nat.le_trans below inside)

end Region

/-! ## Whole texts -/

/-- The block tokens of a text are those of a forest over its lines. -/
theorem blockTokens_nested (frontMatter : Bool) (text : List Char) :
    Nested (List.splitOn '\n' text).length 0 (blockTokens frontMatter text) := by
  have size : (Line.ofText text).toArray.size ≤ (List.splitOn '\n' text).length := by
    rw [List.size_toArray]
    exact length_ofText text
  exact (Region.readsForests_blocks _ _ _ 0 _ ⟨size, .ofText text⟩ (Nat.zero_le _) size).nested

theorem keepsShape_readText (targets : List (List Char × Target)) :
    KeepsShape (readText targets) := by
  constructor <;> intro token <;> unfold readText <;> split <;> rfl

/-- Tokens stay nested when their running text is read. -/
theorem Nested.map {count level : Nat} {tokens : List BlockToken}
    (nested : Nested count level tokens) {change : BlockToken → BlockToken}
    (keeps : KeepsShape change) : Nested count level (tokens.map change) := by
  obtain ⟨forest, rfl, formed, standard, deep⟩ := nested
  refine ⟨BlockNode.mapAll change forest, BlockNode.flatten_mapAll change forest,
    BlockNode.WellFormed.mapAll keeps forest formed, fun node member => ?_, fun token member => ?_⟩
  · rw [BlockNode.mapAll_eq_map] at member
    obtain ⟨before, inside, rfl⟩ := List.mem_map.mp member
    exact (standard before inside).map keeps
  · obtain ⟨before, inside, rfl⟩ := List.mem_map.mp member
    rw [keeps.level_eq]
    exact deep before inside

/-- The tokens of a text are those of a forest over its lines. -/
theorem tokens_nested (frontMatter : Bool) (text : String) :
    Nested (Text.lines text).length 0 (tokens frontMatter text) := by
  rw [length_lines]
  exact (blockTokens_nested frontMatter _).map (keepsShape_readText _)

/-- Behind front matter stands a forest. -/
theorem Nested.tail {count level : Nat} {token : BlockToken} {rest : List BlockToken}
    (nested : Nested count level (token :: rest)) (type : token.type = "front_matter") :
    Nested count level rest := by
  obtain ⟨forest, tokens, formed, standard, deep⟩ := nested
  cases forest with
  | nil => cases tokens
  | cons node nodes =>
      obtain ⟨first, others⟩ := formed
      have opens : node.opening = token := by
        have head := congrArg List.head? tokens
        rw [BlockNode.flatten, List.head?_append, node.head?_tokens] at head
        exact Option.some.inj head
      have alone := (standard node List.mem_cons_self).tokens_eq_singleton first (opens ▸ type)
      rw [BlockNode.flatten, alone] at tokens
      exact ⟨nodes, (List.cons.inj tokens).2, others, (List.forall_mem_cons.mp standard).2,
        (List.forall_mem_cons.mp deep).2⟩

/-- A forest over the lines of a text is read to its end. -/
theorem Nested.ofTokens {lines : List String} {level : Nat} {rest : List BlockToken}
    (nested : Nested lines.length level rest) (before : List BlockToken) :
    ∃ blocks, Block.ofTokens [] lines (before ++ rest) before.length =
      .ok (blocks, ((before ++ rest).length : Nat)) := by
  obtain ⟨forest, rfl, formed, -, -⟩ := nested
  have read : Block.ofTokens [] lines (before ++ (BlockNode.flatten forest ++ [])) before.length =
      _ :=
    Block.ofTokens_embedded formed (by simp) (by simp [Halts])
  rw [List.append_nil, ← List.length_append] at read
  exact ⟨_, read⟩

end Markdown
end CardPress
