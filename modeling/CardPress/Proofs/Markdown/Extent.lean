import CardPress.Markdown.Page

/-!
# Extents of blocks

Every function that looks for the end of a block moves forward and stays within the text.  Most of
them are bounded by the lines that they may look at.  A link definition is bounded by the line feeds
in its text, of which a text has one less than lines.
-/

namespace CardPress

/-! ## Lines of a text -/

namespace Text

theorem length_splitOn (separator : Char) (chars : List Char) :
    (List.splitOn separator chars).length = chars.count separator + 1 := by
  induction chars with
  | nil => rfl
  | cons c rest induction =>
      rw [List.splitOn_cons_eq_if_modifyHead, List.count_cons]
      split
      · rw [List.length_cons, induction]
      · rw [List.length_modifyHead, induction, Nat.add_zero]

theorem not_mem_of_mem_splitOn {separator : Char} {chars piece : List Char}
    (member : piece ∈ List.splitOn separator chars) : separator ∉ piece := by
  induction chars generalizing piece with
  | nil =>
      rw [List.splitOn_nil, List.mem_singleton] at member
      simp [member]
  | cons c rest induction =>
      rw [List.splitOn_cons_eq_if_modifyHead] at member
      split at member
      · rcases List.mem_cons.mp member with rfl | member
        · simp
        · exact induction member
      · next found =>
        obtain ⟨first, others, pieces⟩ :=
          List.exists_cons_of_ne_nil (List.splitOn_ne_nil separator rest)
        rw [pieces] at member induction
        rcases List.mem_cons.mp member with rfl | member
        · rw [List.mem_cons, not_or]
          exact ⟨fun same => found (beq_iff_eq.mpr same.symm), induction List.mem_cons_self⟩
        · exact induction (List.mem_cons_of_mem _ member)

end Text

namespace Markdown

/-- A line at an index of a text with `count` lines: it holds no line feed, and when a line feed
ends it, another line follows. -/
structure Line.StandsAt (count index : Nat) (line : Line) : Prop where
  unbroken : '\n' ∉ line.chars
  followed : line.isLast = false → index + 1 < count

namespace Line.StandsAt

variable {count index : Nat} {line inner : Line}

theorem blank : Line.blank.StandsAt count index :=
  ⟨by simp [Line.blank, ofChars], by simp [Line.blank, ofChars]⟩

/-- What stands behind the marker of a quote is the end of the line. -/
theorem behindQuoteMarker? (stands : line.StandsAt count index)
    (behind : line.behindQuoteMarker? = some inner) : inner.StandsAt count index := by
  have within : ∀ c ∈ line.content, c ≠ '\n' := by
    rintro c member rfl
    exact stands.unbroken (List.mem_of_mem_drop member)
  unfold Line.behindQuoteMarker? at behind
  split at behind
  · next rest content =>
    rw [content] at within
    have others : '\n' ∉ rest := fun member => within '\n' (List.mem_cons_of_mem _ member) rfl
    have chars : inner.chars <:+ rest ∧ inner.isLast = line.isLast := by
      cases behind
      refine ⟨?_, rfl⟩
      split
      · exact List.suffix_cons _ _
      · split
        · exact List.suffix_cons _ _
        · exact List.suffix_refl _
      · exact List.suffix_refl _
    exact ⟨fun member => others (chars.1.mem member), chars.2 ▸ stands.followed⟩
  · cases behind

theorem lazy (stands : line.StandsAt count index) : line.lazy.StandsAt count index :=
  ⟨stands.unbroken, stands.followed⟩

/-- A line has at most one line feed, at its end and in front of another line. -/
theorem count_content_ending (stands : line.StandsAt count index) :
    (line.content ++ line.ending).count '\n' = 0 ∨
      (line.content ++ line.ending).count '\n' = 1 ∧ index + 1 < count := by
  have whole : line.content.count '\n' = 0 :=
    List.count_eq_zero.mpr fun member => stands.unbroken (List.mem_of_mem_drop member)
  rw [List.count_append, whole, Nat.zero_add, Line.ending]
  cases last : line.isLast with
  | true => exact .inl rfl
  | false => exact .inr ⟨rfl, stands.followed last⟩

end Line.StandsAt

/-- Lines that stand at their own indices. -/
def Standing (count : Nat) (lines : Array Line) : Prop :=
  ∀ index, (lines[index]?.getD Line.blank).StandsAt count index

namespace Standing

variable {count : Nat} {lines : Array Line}

theorem set (standing : Standing count lines) {index : Nat} {line : Line}
    (stands : line.StandsAt count index) : Standing count (lines.setIfInBounds index line) := by
  intro other
  rw [Array.getElem?_setIfInBounds]
  by_cases same : index = other
  · subst same
    rw [if_pos rfl]
    split
    · exact stands
    · exact .blank
  · rw [if_neg same]
    exact standing other

theorem ofPieces {pieces : List (List Char)} (unbroken : ∀ piece ∈ pieces, '\n' ∉ piece)
    (index : Nat) :
    ((Line.ofPieces pieces)[index]?.getD Line.blank).StandsAt pieces.length index := by
  fun_induction Line.ofPieces pieces generalizing index with
  | case1 => exact .blank
  | case2 piece blank => exact .blank
  | case3 piece filled =>
      cases index with
      | zero => exact ⟨unbroken piece List.mem_cons_self, by simp [Line.ofChars]⟩
      | succ index => exact .blank
  | case4 piece pieces more induction =>
      obtain ⟨first, others⟩ := List.forall_mem_cons.mp unbroken
      cases index with
      | zero =>
          have another : pieces ≠ [] := more
          refine ⟨first, fun _ => ?_⟩
          rw [List.length_cons]
          exact Nat.succ_lt_succ (List.length_pos_iff.mpr another)
      | succ index =>
          obtain ⟨whole, followed⟩ := induction others index
          exact ⟨whole, fun feeds => Nat.succ_lt_succ (followed feeds)⟩

/-- The lines of a text stand at their own indices. -/
theorem ofText (text : List Char) :
    Standing (List.splitOn '\n' text).length (Line.ofText text).toArray := by
  intro index
  rw [List.getElem?_toArray]
  exact ofPieces (fun _ => Text.not_mem_of_mem_splitOn) index

end Standing

theorem length_ofText (text : List Char) :
    (Line.ofText text).length ≤ (List.splitOn '\n' text).length := by
  rw [Line.ofText]
  fun_induction Line.ofPieces (List.splitOn '\n' text) with
  | case4 piece pieces more induction => exact Nat.succ_le_succ induction
  | _ => simp

/-- A text keeps its lines when its line endings become one kind and the null character is
replaced. -/
theorem length_lines (text : String) :
    (Text.lines text).length = (List.splitOn '\n' (normalizeText text.toList)).length := by
  have feeds : (· == '\n') ∘ (fun c => if c = '\x00' then Url.replacement else c) =
      (· == '\n') := by
    funext c
    by_cases null : c = '\x00'
    · subst null
      decide
    · simp [null]
  rw [Text.lines_eq, List.length_map, Text.length_splitOn, Text.length_splitOn, normalizeText]
  unfold List.count
  rw [List.countP_map, feeds]

/-! ## Definitions -/

/-- The label of a definition, the gap behind the colon, and what is read behind the gap stand in
the text one behind the other. -/
theorem definition_sublist {chars behind : List Char} {length : Nat}
    (within : behind.Sublist ((chars.drop (length + 1)).drop
      (((chars.drop (length + 1)).tail.takeWhile isGap).length + 1))) :
    (chars.take length ++ (chars.drop (length + 1)).tail.takeWhile isGap ++ behind).Sublist
      chars := by
  -- The three pieces need not touch each other, so they are put together from the back.
  generalize tail_eq : chars.drop (length + 1) = tail at within ⊢
  generalize gap_eq : tail.tail.takeWhile isGap = gap at within ⊢
  have whole : gap ++ tail.tail.drop gap.length = tail.tail :=
    List.prefix_iff_eq_append.mp (gap_eq ▸ List.takeWhile_prefix isGap)
  have target : behind.Sublist (tail.tail.drop gap.length) := by
    rwa [← List.drop_one, List.drop_drop, Nat.add_comm 1]
  have gapped : (gap ++ behind).Sublist tail.tail := by
    have joined := (List.Sublist.refl gap).append target
    rwa [whole] at joined
  have rest : tail.tail.Sublist (chars.drop length) := by
    rw [← tail_eq, ← List.drop_one, List.drop_drop]
    exact List.drop_sublist_drop_left _ (by omega)
  have joined := (List.Sublist.refl (chars.take length)).append (gapped.trans rest)
  rwa [List.take_append_drop, ← List.append_assoc] at joined

/-- The lines of a definition are told apart by line feeds in the text that it is read from. -/
theorem definition?_lines {text : List Char} {info : DefinitionInfo} {lines : Nat}
    (found : definition? text = some (info, lines)) : lines ≤ text.count '\n' := by
  unfold definition? at found
  split at found
  · next chars =>
    simp only [Option.bind_eq_bind, Option.bind_none, Option.ite_none_left_eq_some,
      Option.bind_eq_some_iff, Option.pure_def, Option.some.injEq, Prod.mk.injEq] at found
    obtain ⟨length, -, -, destination, -, -, title, -, -, -, rfl⟩ := found
    refine List.Sublist.count_le '\n' ((definition_sublist ?_).trans (List.sublist_cons_self _ _))
    refine (List.take_sublist _ _).trans ?_
    split
    · exact List.drop_sublist _ _
    · exact List.nil_sublist _
  · cases found

/-! ## Regions -/

/-- A region of a text with `count` lines. -/
structure Region.Stands (count : Nat) (region : Region) : Prop where
  stop_le : region.stop ≤ count
  lines : Standing count region.lines

namespace Region

theorem Stands.line {count : Nat} {region : Region} (stands : region.Stands count) (index : Nat) :
    (region.line index).StandsAt count index :=
  stands.lines index

theorem Stands.count_line {count : Nat} {region : Region} (stands : region.Stands count)
    (index : Nat) :
    (region.content index ++ (region.line index).ending).count '\n' = 0 ∨
      (region.content index ++ (region.line index).ending).count '\n' = 1 ∧ index + 1 < count :=
  (stands.line index).count_content_ending

section extents

variable (region : Region)

theorem skipEmpty_bounds (index : Nat) :
    index ≤ region.skipEmpty index ∧ region.skipEmpty index ≤ max index region.stop := by
  fun_induction region.skipEmpty index with
  | case1 index inside blank induction => omega
  | _ => omega

/-- Code goes on at least as far as it is known to. -/
theorem codeEnd_bounds (limit : Nat) {stop index : Nat} (known : stop ≤ index) :
    stop ≤ region.codeEnd limit stop index ∧ region.codeEnd limit stop index ≤ max stop limit := by
  fun_induction region.codeEnd limit stop index with
  | case1 stop index inside blank induction => exact induction (Nat.le_succ_of_le known)
  | case2 stop index inside filled code induction =>
      have bounds := induction (Nat.le_refl _)
      omega
  | _ => omega

theorem fenceEnd_bounds (fence : Fence) {limit index : Nat} (within : index ≤ limit) :
    index ≤ (region.fenceEnd fence limit index).1 ∧
      (region.fenceEnd fence limit index).1 ≤ limit ∧
      ((region.fenceEnd fence limit index).2 → (region.fenceEnd fence limit index).1 < limit) := by
  fun_induction region.fenceEnd fence limit index with
  | case3 index inside line reaches other induction =>
      obtain ⟨first, last, closed⟩ := induction inside
      exact ⟨Nat.le_of_succ_le first, last, closed⟩
  | _ => simp_all

theorem htmlEnd_bounds (block : HtmlBlock) (limit index : Nat) :
    index ≤ region.htmlEnd block limit index ∧
      region.htmlEnd block limit index ≤ max index limit := by
  fun_induction region.htmlEnd block limit index with
  | case4 index inside content within goesOn induction => omega
  | _ => omega

theorem paragraphEnd_bounds (index : Nat) :
    index ≤ region.paragraphEnd index ∧ region.paragraphEnd index ≤ max index region.stop := by
  fun_induction region.paragraphEnd index with
  | case2 index inside filled continues induction => omega
  | _ => omega

/-- Number signs give one of six levels. -/
theorem level_of_heading? {content text : List Char} {level : Nat}
    (found : Markdown.heading? content = some (level, text)) : 1 ≤ level ∧ level ≤ 6 := by
  simp only [Markdown.heading?, Option.ite_none_right_eq_some, Bool.and_eq_true,
    decide_eq_true_eq, Option.some.injEq, Prod.mk.injEq] at found
  obtain ⟨⟨⟨low, high⟩, -⟩, rfl, -⟩ := found
  exact ⟨low, high⟩

/-- The underline of a heading gives one of two levels. -/
theorem level_of_underlineLevel? {content : List Char} {level : Nat}
    (found : underlineLevel? content = some level) : level = 1 ∨ level = 2 := by
  cases content with
  | nil => cases found
  | cons mark rest =>
      simp only [underlineLevel?, Option.ite_none_right_eq_some] at found
      obtain ⟨-, equal⟩ := found
      split at equal
      · exact .inl (Option.some.inj equal).symm
      · exact .inr (Option.some.inj equal).symm

theorem underline?_bounds {limit index stop level : Nat}
    (found : region.underline? limit index = some (stop, level)) :
    index ≤ stop ∧ stop < limit ∧ (level = 1 ∨ level = 2) := by
  fun_induction region.underline? limit index with
  | case2 index inside filled code induction =>
      obtain ⟨first, last⟩ := induction found
      exact ⟨Nat.le_of_succ_le first, last⟩
  | case3 index inside filled near level? level' isLevel =>
      cases found
      refine ⟨Nat.le_refl _, inside, ?_⟩
      simp only [level?, dite_eq_ite, Option.ite_none_left_eq_some] at isLevel
      exact level_of_underlineLevel? isLevel.2
  | case4 index inside filled near level? none_ continues induction =>
      obtain ⟨first, last⟩ := induction found
      exact ⟨Nat.le_of_succ_le first, last⟩
  | _ => cases found

theorem frontMatterEnd?_bounds {length limit index stop : Nat} {isClosed : Bool}
    (found : region.frontMatterEnd? length limit index = some (stop, isClosed)) :
    index ≤ stop ∧ stop < limit := by
  fun_induction region.frontMatterEnd? length limit index with
  | case4 index inside content dots reaches fence induction =>
      obtain ⟨first, last⟩ := induction found
      exact ⟨Nat.le_of_succ_le first, last⟩
  | case5 => cases found
  | _ =>
      cases found
      omega

theorem rows_bounds (columns limit : Nat) (added : Int) (index : Nat) :
    index ≤ (region.rows columns limit added index).next ∧
      (region.rows columns limit added index).next ≤ max index limit := by
  fun_induction region.rows columns limit added index with
  | case2 added index inside content cells added' row rest cells' induction =>
      change index + 1 ≤ rest.next ∧ rest.next ≤ _ at induction
      change index ≤ rest.next ∧ rest.next ≤ _
      omega
  | _ => exact ⟨Nat.le_refl _, Nat.le_max_left _ _⟩

theorem tableHead?_bounds {index stop : Nat} {cells : List (List Char)}
    (found : region.tableHead? index stop = some cells) : index + 2 ≤ stop := by
  by_cases beyond : stop < index + 2
  · simp [tableHead?, beyond] at found
  · exact Nat.le_of_not_lt beyond

/-- The lines of a quote stay in their places. -/
theorem quoteLines_bounds {count limit index : Nat} (lastEmpty : Bool) {lines : Array Line}
    (stands : region.Stands count) (standing : Standing count lines) (within : index ≤ limit) :
    Standing count (region.quoteLines limit lastEmpty lines index).lines ∧
      index ≤ (region.quoteLines limit lastEmpty lines index).stop ∧
      (region.quoteLines limit lastEmpty lines index).stop ≤ limit := by
  -- Two kinds of lines are put back, those behind a marker and lazy ones.
  fun_induction region.quoteLines limit lastEmpty lines index with
  | case2 lastEmpty lines index inside line marked? filled inner marked induction =>
      have stood : inner.StandsAt count index := by
        simp only [marked?, dite_eq_ite, Option.ite_none_left_eq_some] at marked
        exact (stands.line index).behindQuoteMarker? marked.2
      obtain ⟨kept, first, last⟩ := induction (standing.set stood) inside
      exact ⟨kept, Nat.le_of_succ_le first, last⟩
  | case5 lastEmpty lines index inside line marked? filled unmarked goesOn continues induction =>
      have stood : line.lazy.StandsAt count index := (stands.line index).lazy
      obtain ⟨kept, first, last⟩ := induction (standing.set stood) inside
      exact ⟨kept, Nat.le_of_succ_le first, last⟩
  | _ => exact ⟨standing, Nat.le_refl _, within⟩

/-- The line feeds in the text of a definition are those between its lines. -/
theorem count_definitionText {count : Nat} (stands : region.Stands count) (index : Nat) :
    (region.definitionText index).count '\n' = 0 ∨
      index + (region.definitionText index).count '\n' < count := by
  fun_induction region.definitionText index with
  | case2 index inside filled continues induction =>
      have fed := stands.count_line index
      rw [List.count_append]
      omega
  | _ => simp

end extents

section readers

variable {count : Nat} {region : Region}

/-- A definition ends within the text. -/
theorem definition?_bounds (stands : region.Stands count) {start : Nat} {reading : Reading}
    (inside : start < count) (found : region.definition? start = some reading) :
    start + 1 ≤ reading.next ∧ reading.next ≤ count := by
  have first := stands.count_line start
  have others := region.count_definitionText stands (start + 1)
  unfold definition? at found
  split at found
  · cases found
  · obtain ⟨⟨info, lines⟩, defined, rfl⟩ := Option.map_eq_some_iff.mp found
    have fed := definition?_lines defined
    rw [List.count_append] at fed
    change start + 1 ≤ start + 1 + lines ∧ start + 1 + lines ≤ count
    omega

end readers

end Region

end Markdown
end CardPress
