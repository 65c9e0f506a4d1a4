import CardPress.Proofs.Render.BlankPlaces

/-!
# Where separators land

A thematic break waits for the next element, which it separates from the one before.  A blank line
leaves a break waiting, unless nothing has been appended yet: then the empty container that takes
the place of the blank line takes the break as well.  Apart from that, the separator of a break
always lands on the element of the next block that has one, however many blank lines and breaks
stand in between, or on what follows when the sequence is over.
-/

namespace CardPress

/-- Whether an element is set off from the one before it by a line. -/
def Element.isSeparated (element : Element) : Bool :=
  element.placement.separator

@[simp]
theorem Element.isSeparated_place (placement : Placement) (element : Element) :
    (element.place placement).isSeparated = placement.separator := by
  rw [isSeparated, placement_place]

namespace Pass

/-- For each element so far whether it is separated from the one before it. -/
def separators (pass : Pass) : List Bool :=
  pass.body.map Element.isSeparated

theorem separators_inSlot (done : List Element) (content : Element) (count : Nat)
    (separated waiting : Bool) :
    (inSlot done content count separated waiting).separators =
      done.map Element.isSeparated ++ [separated] := by
  simp [separators, inSlot]

/-! ## Steps -/

/-- The two forms of a pass on its way: in front of all elements and in the slot of the last. -/
inductive Standing : Pass → Prop
  | front (waiting : Bool) : Standing { pending := waiting }
  | inSlot (done : List Element) (content : Element) (count : Nat) (separated waiting : Bool) :
      Standing (Pass.inSlot done content count separated waiting)

/-- A blank line in front of all elements is an empty container, which takes a break that waits. -/
theorem space_front (waiting : Bool) :
    ({ pending := waiting } : Pass).space = inSlot [] (.container [] none {}) 1 waiting false := by
  cases waiting <;> rfl

/-- A blank line behind an element widens it, and leaves a break waiting. -/
theorem space_inSlot (done : List Element) (content : Element) (count : Nat)
    (separated waiting : Bool) :
    (inSlot done content count separated waiting).space =
      inSlot done content (count + 1) separated waiting :=
  take_space_inSlot done content count separated waiting

/-- A block with an element of its own appends it, separated when a break is waiting. -/
theorem step_content {pass next : Pass} {block : Block} (content : block.isContent)
    (stepped : pass.step block = .ok next) :
    ∃ element ending, next = inSlot pass.body element 0 pass.pending ending := by
  obtain ⟨element, ending, piece⟩ := Block.exists_piece content
  have state := step_eq block stepped
  rw [piece, take_element] at state
  exact ⟨element, ending, state⟩

/-- A step keeps to the two forms, and takes no separator back. -/
theorem Standing.step {pass next : Pass} {block : Block} (standing : pass.Standing)
    (stepped : pass.step block = .ok next) :
    next.Standing ∧ pass.separators <+: next.separators := by
  by_cases content : block.isContent
  · obtain ⟨element, ending, rfl⟩ := step_content content stepped
    refine ⟨.inSlot .., ?_⟩
    rw [separators_inSlot]
    exact List.prefix_append ..
  · cases block with
    | space raw =>
        obtain rfl : pass.space = next := Except.ok.inj stepped
        cases standing with
        | front waiting =>
            rw [space_front]
            exact ⟨.inSlot .., List.nil_prefix⟩
        | inSlot done content count separated waiting =>
            rw [space_inSlot, separators_inSlot, separators_inSlot]
            exact ⟨.inSlot .., List.prefix_rfl⟩
    | rule raw =>
        obtain rfl : pass.hold = next := Except.ok.inj stepped
        refine ⟨?_, List.prefix_rfl⟩
        cases standing with
        | front waiting => exact .front true
        | inSlot done content count separated waiting =>
            exact .inSlot done content count separated true
    | _ => exact absurd rfl content

/-- A run keeps to the two forms, and takes no separator back. -/
theorem Standing.run {pass final : Pass} {blocks : List Block} (standing : pass.Standing)
    (ran : pass.run blocks = .ok final) :
    final.Standing ∧ pass.separators <+: final.separators := by
  induction blocks generalizing pass with
  | nil =>
      obtain rfl : pass = final := Except.ok.inj ran
      exact ⟨standing, List.prefix_rfl⟩
  | cons block blocks induction =>
      rw [Pass.run, bind_eq_ok] at ran
      obtain ⟨next, stepped, later⟩ := ran
      obtain ⟨nextStanding, first⟩ := standing.step stepped
      obtain ⟨finalStanding, others⟩ := induction nextStanding later
      exact ⟨finalStanding, first.trans others⟩

/-! ## Blank lines and breaks in a row -/

theorem run_space (pass : Pass) (raw : String) (blocks : List Block) :
    pass.run (.space raw :: blocks) = pass.space.run blocks := by
  rw [run, step]
  rfl

theorem run_rule (pass : Pass) (raw : String) (blocks : List Block) :
    pass.run (.rule raw :: blocks) = pass.hold.run blocks := by
  rw [run, step]
  rfl

theorem hold_inSlot (done : List Element) (content : Element) (count : Nat)
    (separated waiting : Bool) :
    (inSlot done content count separated waiting).hold =
      inSlot done content count separated true := rfl

theorem hold_front (waiting : Bool) :
    ({ pending := waiting } : Pass).hold = { pending := true } := rfl

section gap

variable {gap : List Block}

/-- Behind an element, blank lines widen it and breaks go on waiting. -/
theorem run_gap_inSlot (blank : ∀ block ∈ gap, block.isContent = false) (done : List Element)
    (content : Element) (count : Nat) (separated waiting : Bool) :
    (inSlot done content count separated waiting).run gap =
      .ok (inSlot done content (count + gap.countP Block.isSpace) separated
        (waiting || gap.any Block.isRule)) := by
  induction gap generalizing count waiting with
  | nil => simp [run]
  | cons block gap induction =>
      obtain ⟨here, others⟩ := List.forall_mem_cons.mp blank
      cases block with
      | space raw =>
          rw [run_space, space_inSlot, induction others]
          simp [List.countP_cons, Block.isSpace, Block.isRule, Nat.add_assoc, Nat.add_comm 1]
      | rule raw =>
          rw [run_rule, hold_inSlot, induction others]
          simp [Block.isSpace, Block.isRule]
      | _ => cases here

/-- In front of all elements, breaks go on waiting as long as no blank line comes. -/
theorem run_rules_front (blank : ∀ block ∈ gap, block.isContent = false)
    (unspaced : ∀ block ∈ gap, block.isSpace = false) (waiting : Bool) :
    ({ pending := waiting } : Pass).run gap =
      .ok { pending := waiting || gap.any Block.isRule } := by
  induction gap generalizing waiting with
  | nil => simp [run]
  | cons block gap induction =>
      obtain ⟨here, others⟩ := List.forall_mem_cons.mp blank
      obtain ⟨line, lines⟩ := List.forall_mem_cons.mp unspaced
      cases block with
      | space raw => cases line
      | rule raw =>
          rw [run_rule, hold_front, induction others lines]
          simp [Block.isRule]
      | _ => cases here

/-- In front of all elements, the first blank line takes the breaks that wait for it. -/
theorem run_gap_front (blank : ∀ block ∈ gap, block.isContent = false)
    (spaced : ∃ block ∈ gap, block.isSpace) (waiting : Bool) :
    ∃ count, ({ pending := waiting } : Pass).run gap =
      .ok (inSlot [] (.container [] none {}) count (waiting || gap.head?.any Block.isRule)
        ((gap.dropWhile Block.isRule).any Block.isRule)) := by
  induction gap generalizing waiting with
  | nil => simp at spaced
  | cons block gap induction =>
      obtain ⟨here, others⟩ := List.forall_mem_cons.mp blank
      cases block with
      | space raw =>
          refine ⟨1 + gap.countP Block.isSpace, ?_⟩
          rw [run_space, space_front, run_gap_inSlot others]
          simp [Block.isRule]
      | rule raw =>
          have later : ∃ block ∈ gap, block.isSpace := by simpa [Block.isSpace] using spaced
          obtain ⟨count, ran⟩ := induction others later true
          refine ⟨count, ?_⟩
          rw [run_rule, hold_front, ran, List.dropWhile_cons_of_pos rfl]
          simp [Block.isRule]
      | _ => cases here

end gap

/-! ## Where a break goes -/

/-- A break that waits behind a number of elements reaches what comes next: the element of the next
block that has one, whatever follows; at the end of a page an empty container; and at the end of a
quote what comes next behind the quote. -/
structure Delivers (held : Pass) (place : Nat) : Prop where
  next : ∀ block next after final, block.isContent → held.step block = .ok next →
    next.run after = .ok final →
      next.body.length = place + 1 ∧ final.separators[place]? = some true
  page : held.finish.separators = held.separators ++ [true] ∧ held.separators.length = place
  quote : ∀ (outer next : Pass) (children : List Block) (raw : String),
    Pass.run {} children = .ok held → outer.step (.quote children raw) = .ok next →
      next.pending = true

theorem delivers (held : Pass) (waiting : held.pending = true) :
    held.Delivers held.body.length := by
  constructor
  case next =>
    intro block next after final content stepped ran
    obtain ⟨element, ending, rfl⟩ := step_content content stepped
    obtain ⟨-, kept⟩ := (Standing.inSlot _ element 0 _ ending).run ran
    refine ⟨by simp [inSlot], ?_⟩
    obtain ⟨others, equal⟩ := kept
    rw [← equal, separators_inSlot, waiting]
    simp
  case page => simp [finish, waiting, separators, Element.isSeparated, Element.placement]
  case quote =>
    intro outer next children raw ran stepped
    rw [step, ran] at stepped
    obtain rfl := Except.ok.inj stepped
    simp [waiting, hold]

/-- A blank line leaves a break waiting unless it comes in front of all elements, where the empty
container that takes its place takes the break as well.  So behind blocks that have an element, or
where no blank lines come, a break is delivered to what comes behind any number of blank lines and
further breaks.  In front of all elements, the breaks before the first blank line separate its
container, and only those behind that line are delivered to what comes next. -/
theorem rule_delivered {blocks : List Block} {pass : Pass}
    (reached : Pass.run {} blocks = .ok pass) :
    (pass.space.pending = pass.pending ↔ ¬(pass.body = [] ∧ pass.pending = true)) ∧
    ∀ gap, (∀ block ∈ gap, block.isContent = false) →
      (pass.pending = true ∨ ∃ block ∈ gap, block.isRule) →
        ∃ held, pass.run gap = .ok held ∧
          ((pass.body ≠ [] ∨ ∀ block ∈ gap, block.isSpace = false) →
            held.Delivers pass.body.length) ∧
          (pass.body = [] → (∃ block ∈ gap, block.isSpace) →
            (∃ spacing, held.body = [.container [] none
              { spacing, separator := pass.pending || gap.head?.any Block.isRule }]) ∧
            held.pending = (gap.dropWhile Block.isRule).any Block.isRule ∧
            (held.pending = true → held.Delivers 1)) := by
  have standing := ((Standing.front false).run reached).1
  cases standing with
  | front waiting =>
      refine ⟨by rw [space_front]; cases waiting <;> simp [inSlot], fun gap blank broken => ?_⟩
      by_cases spaced : ∃ block ∈ gap, block.isSpace
      · obtain ⟨count, ran⟩ := run_gap_front blank spaced waiting
        refine ⟨_, ran, ?_, fun _ _ => ⟨⟨_, rfl⟩, rfl, delivers _⟩⟩
        rintro (filled | unspaced)
        · exact absurd rfl filled
        · obtain ⟨block, member, space⟩ := spaced
          rw [unspaced block member] at space
          cases space
      · have unspaced : ∀ block ∈ gap, block.isSpace = false := by simpa using spaced
        have ran := run_rules_front blank unspaced waiting
        have held : (waiting || gap.any Block.isRule) = true := by simpa using broken
        exact ⟨_, ran, fun _ => delivers _ held, fun _ some => absurd some spaced⟩
  | inSlot done content count separated waiting =>
      refine ⟨by rw [space_inSlot]; simp [inSlot], fun gap blank broken => ?_⟩
      have ran := run_gap_inSlot blank done content count separated waiting
      have held : (waiting || gap.any Block.isRule) = true := by simpa [inSlot] using broken
      rw [held] at ran
      refine ⟨_, ran, fun _ => ?_, fun empty => by simp [inSlot] at empty⟩
      simpa [inSlot] using
        delivers (inSlot done content (count + gap.countP Block.isSpace) separated true) rfl

/-- Behind a block, a break goes past blank lines and another break to the next block, and in front
of all blocks it goes past another break alone. -/
theorem rule_delivered_past :
    (∃ pass held, Pass.run {} [.html "a"] = .ok pass ∧
      pass.run [.rule "", .space "", .rule "", .space ""] = .ok held ∧ held.Delivers 1 ∧
      ∃ next, held.step (.html "b") = .ok next ∧ next.separators = [false, true]) ∧
    ∃ held, Pass.run {} [.rule "", .rule ""] = .ok held ∧ held.Delivers 0 := by
  constructor
  · have reached : Pass.run {} [.html "a"] = .ok _ := rfl
    obtain ⟨-, gaps⟩ := rule_delivered reached
    obtain ⟨held, ran, delivered, -⟩ :=
      gaps [.rule "", .space "", .rule "", .space ""] (by decide) (.inr (by decide))
    have sent := delivered (.inl (by simp [append]))
    cases ran
    exact ⟨_, _, rfl, rfl, sent, _, rfl, rfl⟩
  · have reached : Pass.run {} [] = .ok _ := rfl
    obtain ⟨-, gaps⟩ := rule_delivered reached
    obtain ⟨held, ran, delivered, -⟩ :=
      gaps [.rule "", .rule ""] (by decide) (.inr (by decide))
    exact ⟨held, ran, delivered (.inr (by decide))⟩

/-- In front of all elements, a blank line takes the break that waits for the text behind it. -/
theorem space_takes_break :
    (∃ pass, Pass.run {} [.rule "---"] = .ok pass ∧ pass.pending = true ∧
      pass.space.pending = false) ∧
    renderBody [.rule "---", .space "\n", .paragraph [.literal .plain "a" "a"] "a"] =
      .ok [
        .container [] none { spacing := some .extraSmall, separator := true },
        .richText [{ text := "a" }] {}] :=
  ⟨⟨_, rfl, rfl, rfl⟩, rfl⟩

end Pass

end CardPress
