import CardPress.Proofs.Render.FailFast
import CardPress.Proofs.Render.Separators
import CardPress.Render.Dispatch

/-!
# Going on behind a failure

All that a block has done before it stops at a node, however deep inside of it, it has done to
passes that it has started itself.  The central theorem draws the conclusion for a sequence that is
rendered block by block, going on behind each failure: it renders as though the blocks that fail
were not there.  On the way a pass always points to its last element, and a step changes no other
one.
-/

namespace CardPress

/-- Whether a block can be rendered, with all that is inside of it. -/
def Block.isSound (block : Block) : Bool :=
  (PageNode.block block :: block.inside).all PageNode.isSupported

theorem Block.isSound_eq (block : Block) :
    block.isSound = (PageNode.firstReport? (.block block :: block.inside)).isNone := by
  rw [Bool.eq_iff_iff, Option.isNone_iff_eq_none, PageNode.firstReport?_eq_none, isSound,
    List.all_eq_true]

theorem isOk_eq {error value : Type} (outcome : Except error value) :
    outcome.isOk = (stop? outcome).isNone := by
  cases outcome with
  | ok value => rfl
  | error cause => rfl

/-! ## Blocks that fail are left out -/

namespace Pass

/-- The pass behind a block.  A block that cannot be rendered leaves it as it was. -/
def tried (pass : Pass) (block : Block) : Pass :=
  (pass.step block).toOption.getD pass

/-- What comes of each of some blocks, when those that cannot be rendered are passed over. -/
def trail (pass : Pass) : List Block → List (Except Unsupported Pass)
  | [] => []
  | block :: blocks => pass.step block :: (pass.tried block).trail blocks

theorem tried_of_ok {pass next : Pass} {block : Block} (stepped : pass.step block = .ok next) :
    pass.tried block = next := by
  rw [tried, stepped]
  rfl

theorem tried_of_error {pass : Pass} {block : Block} {node : Unsupported}
    (stopped : pass.step block = .error node) : pass.tried block = pass := by
  rw [tried, stopped]
  rfl

/-- Whether a block can be rendered does not depend on the pass. -/
theorem isOk_step (pass : Pass) (block : Block) : (pass.step block).isOk = block.isSound := by
  rw [isOk_eq, stop?_step, Block.isSound_eq]

theorem step_of_isSound {block : Block} (sound : block.isSound = true) (pass : Pass) :
    pass.step block = .ok (pass.tried block) := by
  rw [← isOk_step pass] at sound
  cases stepped : pass.step block with
  | ok next => rw [tried_of_ok stepped]
  | error node =>
      rw [stepped] at sound
      cases sound

theorem tried_of_not_isSound {block : Block} (unsound : ¬block.isSound = true) (pass : Pass) :
    pass.tried block = pass := by
  rw [← isOk_step pass] at unsound
  cases stepped : pass.step block with
  | ok next =>
      rw [stepped] at unsound
      exact absurd rfl unsound
  | error node => exact tried_of_error stepped

/-- Without the blocks that fail, the others have the same outcomes. -/
theorem trail_filter (pass : Pass) (blocks : List Block) :
    pass.trail (blocks.filter Block.isSound) = (pass.trail blocks).filter Except.isOk := by
  induction blocks generalizing pass with
  | nil => rfl
  | cons block blocks induction =>
      rw [trail, List.filter_cons, List.filter_cons, isOk_step]
      split
      · rw [trail, induction]
      · next unsound => rw [tried_of_not_isSound unsound, induction]

theorem map_isOk_trail (pass : Pass) (blocks : List Block) :
    (pass.trail blocks).map Except.isOk = blocks.map Block.isSound := by
  induction blocks generalizing pass with
  | nil => rfl
  | cons block blocks induction => rw [trail, List.map_cons, List.map_cons, isOk_step, induction]

/-- The blocks that can be rendered lead to the same pass when the others are left out. -/
theorem run_filter (pass : Pass) (blocks : List Block) :
    pass.run (blocks.filter Block.isSound) = .ok (blocks.foldl tried pass) := by
  induction blocks generalizing pass with
  | nil => rfl
  | cons block blocks induction =>
      rw [List.filter_cons, List.foldl_cons]
      split
      · next sound =>
          rw [run, step_of_isSound sound pass]
          exact induction _
      · next unsound => rw [tried_of_not_isSound unsound, induction]

theorem foldl_tried_filter (pass : Pass) (blocks : List Block) :
    (blocks.filter Block.isSound).foldl tried pass = blocks.foldl tried pass := by
  have first := run_filter pass (blocks.filter Block.isSound)
  rw [List.filter_filter] at first
  simp only [Bool.and_self] at first
  exact (Except.ok.inj ((run_filter pass blocks).symm.trans first)).symm

/-- The pass as far as a run comes in front of the first block that fails. -/
def reached (pass : Pass) (blocks : List Block) : Pass :=
  (blocks.takeWhile Block.isSound).foldl tried pass

theorem reached_cons_of_ok {pass next : Pass} {block : Block} (stepped : pass.step block = .ok next)
    (blocks : List Block) : pass.reached (block :: blocks) = next.reached blocks := by
  have sound : block.isSound = true := by
    rw [← isOk_step pass, stepped]
    rfl
  rw [reached, List.takeWhile_cons_of_pos sound, List.foldl_cons, tried_of_ok stepped]
  rfl

theorem reached_cons_of_error {pass : Pass} {block : Block} {node : Unsupported}
    (stopped : pass.step block = .error node) (blocks : List Block) :
    pass.reached (block :: blocks) = pass := by
  have unsound : ¬block.isSound = true := by
    rw [← isOk_step pass, stopped]
    exact Bool.false_ne_true
  rw [reached, List.takeWhile_cons_of_neg unsound]
  rfl

/-- A run that comes to its end has come past all blocks. -/
theorem reached_of_run {pass final : Pass} {blocks : List Block}
    (ran : pass.run blocks = .ok final) : pass.reached blocks = final := by
  induction blocks generalizing pass with
  | nil => exact Except.ok.inj ran
  | cons block blocks induction =>
      rw [run, bind_eq_ok] at ran
      obtain ⟨next, stepped, later⟩ := ran
      rw [reached_cons_of_ok stepped, induction later]

/-! ## The last element -/

/-- A step appends an element of its own, widens the last one, or holds a thematic break back. -/
theorem step_cases {pass next : Pass} {block : Block} (stepped : pass.step block = .ok next) :
    (∃ element ending, next = inSlot pass.body element 0 pass.pending ending) ∨
      next = pass.space ∨ next = pass.hold := by
  by_cases content : block.isContent
  · exact .inl (step_content content stepped)
  · cases block with
    | space raw => exact .inr (.inl (Except.ok.inj stepped).symm)
    | rule raw => exact .inr (.inr (Except.ok.inj stepped).symm)
    | _ => exact absurd rfl content

/-- A pass points to its last element, and to none as long as it has none. -/
structure PointsToLast (pass : Pass) : Prop where
  none_iff : pass.last = none ↔ pass.body = []
  last : ∀ index, pass.last = some index → index + 1 = pass.body.length

theorem pointsToLast_empty : PointsToLast {} where
  none_iff := ⟨fun _ => rfl, fun _ => rfl⟩
  last := fun _ found => by cases found

theorem pointsToLast_append (element : Element) (pass : Pass) :
    (pass.append element).PointsToLast := by
  constructor
  case none_iff => simp [append]
  case last => simp [append]

theorem PointsToLast.widen {pass : Pass} (points : pass.PointsToLast) (index : Nat) :
    (pass.widen index).PointsToLast := by
  obtain ⟨empty, last⟩ := points
  constructor
  case none_iff => simpa [Pass.widen] using empty
  case last => simpa [Pass.widen] using last

theorem PointsToLast.hold {pass : Pass} (points : pass.PointsToLast) : pass.hold.PointsToLast where
  none_iff := points.none_iff
  last := points.last

theorem PointsToLast.space {pass : Pass} (points : pass.PointsToLast) :
    pass.space.PointsToLast := by
  rw [Pass.space]
  split
  · exact points.widen _
  · exact (pointsToLast_append ..).widen _

theorem PointsToLast.step {pass next : Pass} {block : Block} (points : pass.PointsToLast)
    (stepped : pass.step block = .ok next) : next.PointsToLast := by
  obtain ⟨element, ending, rfl⟩ | rfl | rfl := step_cases stepped
  · constructor
    case none_iff => simp [inSlot]
    case last => simp [inSlot]
  · exact points.space
  · exact points.hold

theorem PointsToLast.tried {pass : Pass} (points : pass.PointsToLast) (block : Block) :
    (pass.tried block).PointsToLast := by
  cases stepped : pass.step block with
  | ok next =>
      rw [tried_of_ok stepped]
      exact points.step stepped
  | error node =>
      rw [tried_of_error stepped]
      exact points

theorem PointsToLast.foldl_tried {pass : Pass} (points : pass.PointsToLast) (blocks : List Block) :
    (blocks.foldl Pass.tried pass).PointsToLast := by
  induction blocks generalizing pass with
  | nil => exact points
  | cons block blocks induction => exact induction (points.tried block)

/-- All elements of a pass have stayed as they were, but for the one that it pointed to. -/
def KeepsOthers (before after : Pass) : Prop :=
  ∀ index element, before.body[index]? = some element → before.last ≠ some index →
    after.body[index]? = some element

/-- New elements come behind the others. -/
theorem keepsOthers_of_prefix {before after : Pass} (front : before.body <+: after.body) :
    before.KeepsOthers after := by
  intro index element there _
  obtain ⟨rest, body⟩ := front
  rw [← body, List.getElem?_append_left (List.getElem?_eq_some_iff.mp there).1, there]

theorem keepsOthers_space (pass : Pass) : pass.KeepsOthers pass.space := by
  intro index element there other
  rw [space]
  split
  · next last pointed =>
      have apart : last ≠ index := by
        rintro rfl
        exact other pointed
      rw [widen, List.getElem?_modify_ne _ _ apart, there]
  · have inside : index < pass.body.length := (List.getElem?_eq_some_iff.mp there).1
    rw [widen, List.getElem?_modify_ne _ _ (Nat.ne_of_gt inside)]
    exact keepsOthers_of_prefix (List.prefix_append ..) index element there other

theorem keepsOthers_step {pass next : Pass} {block : Block} (stepped : pass.step block = .ok next) :
    pass.KeepsOthers next := by
  obtain ⟨element, ending, rfl⟩ | rfl | rfl := step_cases stepped
  · exact keepsOthers_of_prefix (List.prefix_append ..)
  · exact keepsOthers_space pass
  · exact keepsOthers_of_prefix List.prefix_rfl

end Pass

/-! ## Computations on passes -/

namespace Dispatch

section runOn

variable {first second : Type} {passes after : List Pass} {place : Nat} {pass : Pass}

theorem set_of_getElem? (found : passes[place]? = some pass) : passes.set place pass = passes := by
  obtain ⟨inside, rfl⟩ := List.getElem?_eq_some_iff.mp found
  exact List.set_getElem_self inside

theorem lt_length_of_getElem? (found : passes[place]? = some pass) : place < passes.length :=
  (List.getElem?_eq_some_iff.mp found).1

/-- The pass at a place is found there again behind any change. -/
theorem getElem?_set_append (found : passes[place]? = some pass) (next : Pass)
    (started : List Pass) : (passes.set place next ++ started)[place]? = some next := by
  have inside := lt_length_of_getElem? found
  rw [List.getElem?_append_left (by simpa using inside), List.getElem?_set_self inside]

theorem set_set_append (found : passes[place]? = some pass) (next last : Pass)
    (started : List Pass) :
    (passes.set place next ++ started).set place last = passes.set place last ++ started := by
  have inside := lt_length_of_getElem? found
  rw [List.set_append_left _ _ (by simpa using inside), List.set_set]

theorem runOn_bind_of_ok {work : Dispatch first} {value : first}
    (done : runOn passes work = (.ok value, after)) (next : first → Dispatch second) :
    runOn passes (work >>= next) = runOn after (next value) := by
  rw [runOn] at done
  rw [runOn, ExceptT.run_bind, StateT.run_bind, done]
  rfl

theorem runOn_bind_of_error {work : Dispatch first} {node : Unsupported}
    (stopped : runOn passes work = (.error node, after)) (next : first → Dispatch second) :
    runOn passes (work >>= next) = (.error node, after) := by
  rw [runOn] at stopped
  rw [runOn, ExceptT.run_bind, StateT.run_bind, stopped]
  rfl

theorem runOn_start (passes : List Pass) :
    runOn passes start = (.ok passes.length, passes ++ [({} : Pass)]) := rfl

theorem runOn_look (found : passes[place]? = some pass) :
    runOn passes (look place) = (.ok pass, passes) := by
  change (Except.ok (passes[place]?.getD {}), passes) = _
  rw [found]
  rfl

theorem runOn_change (found : passes[place]? = some pass) (act : Pass → Pass) :
    runOn passes (change place act) = (.ok (), passes.set place (act pass)) := by
  change (Except.ok (), passes.modify place act) = _
  obtain ⟨inside, rfl⟩ := List.getElem?_eq_some_iff.mp found
  rw [List.modify_eq_set_getElem?]
  simp [inside]

theorem runOn_append_ok (found : passes[place]? = some pass) (element : Element) :
    runOn passes (append place (.ok element)) = (.ok (), passes.set place (pass.append element)) :=
  runOn_change found (Pass.append element)

theorem runOn_append_error (node : Unsupported) :
    runOn passes (append place (.error node)) = (.error node, passes) := rfl

end runOn

/-- What a computation in the pass at a place leaves behind, whether it comes to an end or stops:
that pass as far as it has come, all other passes as they were, and behind them those that it has
started itself. -/
def Leaves (passes : List Pass) (work : Dispatch Unit) (place : Nat)
    (outcome : Except Unsupported Pass) (left : Pass) : Prop :=
  ∃ started, (∀ inner ∈ started, inner.PointsToLast) ∧
    runOn passes work = (outcome.map fun _ => (), passes.set place left ++ started)

section leaves

variable {passes : List Pass} {place : Nat} {pass : Pass}

theorem leaves_change (found : passes[place]? = some pass) {act : Pass → Pass} {block : Block}
    (step : pass.step block = .ok (act pass)) :
    Leaves passes (change place act) place (pass.step block) (pass.tried block) := by
  refine ⟨[], by simp, ?_⟩
  rw [runOn_change found, Pass.tried_of_ok step, step, List.append_nil]
  rfl

/-- A block that appends an element does nothing to any pass while the element is made. -/
theorem leaves_append (found : passes[place]? = some pass) {made : Except Unsupported Element}
    {block : Block} (step : pass.step block = made.map fun element => pass.append element) :
    Leaves passes (append place made) place (pass.step block) (pass.tried block) := by
  refine ⟨[], by simp, ?_⟩
  cases made with
  | ok element =>
      rw [runOn_append_ok found, Pass.tried_of_ok step, step, List.append_nil]
      rfl
  | error node =>
      rw [runOn_append_error, Pass.tried_of_error step, step, List.append_nil,
        set_of_getElem? found]
      rfl

/-- A quote takes nothing over from its own pass unless that comes to its end. -/
theorem leaves_quote (found : passes[place]? = some pass) {children : List Block} (raw : String)
    (inside : Leaves (passes ++ [({} : Pass)]) (blocks passes.length children) passes.length
      (Pass.run {} children) (Pass.reached {} children)) :
    Leaves passes (block place (.quote children raw)) place (pass.step (.quote children raw))
      (pass.tried (.quote children raw)) := by
  obtain ⟨started, pointed, done⟩ := inside
  -- The pass of the quote stands behind all old ones, as far as it has come.
  rw [List.set_append_right _ _ (Nat.le_refl _), Nat.sub_self, List.set_cons_zero,
    List.append_assoc, List.singleton_append] at done
  refine ⟨Pass.reached {} children :: started,
    List.forall_mem_cons.mpr ⟨Pass.pointsToLast_empty.foldl_tried _, pointed⟩, ?_⟩
  rw [block, runOn_bind_of_ok (runOn_start passes)]
  cases ran : Pass.run {} children with
  | error node =>
      have stopped : pass.step (.quote children raw) = .error node := by
        rw [Pass.step, ran]
        rfl
      rw [ran] at done
      rw [runOn_bind_of_error done, stopped, Pass.tried_of_error stopped, set_of_getElem? found]
      rfl
  | ok inner =>
      rw [ran, Pass.reached_of_run ran] at done
      have look : (passes ++ inner :: started)[passes.length]? = some inner := by simp
      have here : (passes ++ inner :: started)[place]? = some pass := by
        rw [List.getElem?_append_left (lt_length_of_getElem? found), found]
      have stepped : pass.step (.quote children raw) = .ok
          (if inner.pending then (pass.append (.container inner.body (some true) {})).hold
            else pass.append (.container inner.body (some true) {})) := by
        rw [Pass.step, ran]
        rfl
      rw [runOn_bind_of_ok done, runOn_bind_of_ok (runOn_look look),
        runOn_bind_of_ok (runOn_append_ok here _), stepped, Pass.tried_of_ok stepped,
        Pass.reached_of_run ran, List.set_append_left _ _ (lt_length_of_getElem? found)]
      cases inner.pending with
      | false => rfl
      | true =>
          rw [if_pos rfl, if_pos rfl, runOn_change (getElem?_set_append found _ _),
            set_set_append found]
          rfl

mutual

/-- A block does in the pass at a place what a step of that pass does. -/
theorem leaves_block (block : Block) {passes : List Pass} {place : Nat} {pass : Pass}
    (found : passes[place]? = some pass) :
    Leaves passes (Dispatch.block place block) place (pass.step block) (pass.tried block) := by
  cases block with
  | space raw =>
      rw [Dispatch.block]
      exact leaves_change found rfl
  | rule raw =>
      rw [Dispatch.block]
      exact leaves_change found rfl
  | heading level inlines raw =>
      rw [Dispatch.block]
      apply leaves_append found
      rw [Pass.step]
      cases headingRuns level inlines <;> rfl
  | paragraph inlines raw =>
      rw [Dispatch.block]
      apply leaves_append found
      rw [Pass.step]
      cases Inline.allRuns inlines <;> rfl
  | table header rows raw =>
      rw [Dispatch.block]
      apply leaves_append found
      rw [Pass.step]
      cases renderTable header rows <;> rfl
  | quote children raw => exact leaves_quote found raw (leaves_blocks children (by simp))
  | unknown kind raw =>
      refine ⟨[], by simp, ?_⟩
      rw [Dispatch.block, Pass.tried_of_error rfl, set_of_getElem? found, List.append_nil]
      rfl
  | _ =>
      rw [Dispatch.block]
      exact leaves_append found rfl

/-- Blocks do in the pass at a place what a run of that pass does, and when they stop they leave it
in front of the first that fails. -/
theorem leaves_blocks (blocks : List Block) {passes : List Pass} {place : Nat} {pass : Pass}
    (found : passes[place]? = some pass) :
    Leaves passes (Dispatch.blocks place blocks) place (pass.run blocks) (pass.reached blocks) := by
  cases blocks with
  | nil =>
      refine ⟨[], by simp, ?_⟩
      rw [Dispatch.blocks, Pass.run, Pass.reached, List.takeWhile_nil, List.foldl_nil,
        set_of_getElem? found, List.append_nil]
      rfl
  | cons block blocks =>
      obtain ⟨started, pointed, done⟩ := leaves_block block found
      cases stepped : pass.step block with
      | error node =>
          refine ⟨started, pointed, ?_⟩
          rw [stepped, Pass.tried_of_error stepped] at done
          rw [Dispatch.blocks, runOn_bind_of_error done, Pass.run, stepped,
            Pass.reached_cons_of_error stepped]
          rfl
      | ok next =>
          rw [stepped, Pass.tried_of_ok stepped] at done
          -- The pass is still at its place, whatever the block has started behind the others.
          obtain ⟨later, pointedLater, doneLater⟩ :=
            leaves_blocks blocks (getElem?_set_append found next started)
          refine ⟨started ++ later, List.forall_mem_append.mpr ⟨pointed, pointedLater⟩, ?_⟩
          rw [Dispatch.blocks, runOn_bind_of_ok done, doneLater, set_set_append found,
            List.append_assoc, Pass.reached_cons_of_ok stepped, Pass.run, stepped]
          rfl

end

end leaves

/-! ## Attempts -/

/-- The passes that may stand side by side at some moment: the pass of a page first, then one for
each quote that has been started, each of them as blocks leave it. -/
inductive Reachable : List Pass → Prop
  | page : Reachable [({} : Pass)]
  | start {passes : List Pass} (before : Reachable passes) : Reachable (passes ++ [({} : Pass)])
  | block {passes : List Pass} (before : Reachable passes) (place : Nat) {pass : Pass}
      (found : passes[place]? = some pass) (block : Block) :
      Reachable (runOn passes (Dispatch.block place block)).2

theorem Reachable.pointsToLast {passes : List Pass} (reachable : Reachable passes) :
    ∀ pass ∈ passes, pass.PointsToLast := by
  induction reachable with
  | page => simpa using Pass.pointsToLast_empty
  | start before induction =>
      exact List.forall_mem_append.mpr ⟨induction, by simpa using Pass.pointsToLast_empty⟩
  | block before place found block induction =>
      obtain ⟨started, pointed, done⟩ := leaves_block block found
      rw [done]
      refine List.forall_mem_append.mpr ⟨fun pass member => ?_, pointed⟩
      obtain old | rfl := List.mem_or_eq_of_mem_set member
      · exact induction pass old
      · exact (induction _ (List.mem_of_getElem? found)).tried block

section attempt

variable {passes after : List Pass} {place : Nat} {pass : Pass}

theorem run_attempt_cons {block : Block} {blocks : List Block} {final : List Pass}
    {outcome : Except Unsupported Pass} {outcomes : List (Except Unsupported Pass)}
    (first : runOn passes (do Dispatch.block place block; look place) = (outcome, after))
    (others : StateT.run (attempt place blocks) after = (outcomes, final)) :
    StateT.run (attempt place (block :: blocks)) passes = (outcome :: outcomes, final) := by
  rw [runOn] at first
  rw [attempt, StateT.run_bind, first]
  change (StateT.run (attempt place blocks >>= fun rest => pure (outcome :: rest)) after) = _
  rw [StateT.run_bind, others]
  rfl

/-- Looking at the pass behind a block tells what has come of the block, and changes nothing. -/
theorem runOn_block_look (found : passes[place]? = some pass) (block : Block) :
    runOn passes (do Dispatch.block place block; look place) =
      (pass.step block, (runOn passes (Dispatch.block place block)).2) := by
  obtain ⟨started, -, done⟩ := leaves_block block found
  cases stepped : pass.step block with
  | ok next =>
      rw [stepped, Pass.tried_of_ok stepped] at done
      rw [runOn_bind_of_ok done, runOn_look (getElem?_set_append found _ started), done]
  | error node =>
      rw [stepped] at done
      rw [runOn_bind_of_error done, done]

theorem Reachable.attempt (reachable : Reachable passes) (blocks : List Block)
    (found : passes[place]? = some pass) :
    Reachable (StateT.run (Dispatch.attempt place blocks) passes).2 := by
  induction blocks generalizing passes pass with
  | nil => exact reachable
  | cons block blocks induction =>
      obtain ⟨started, -, done⟩ := leaves_block block found
      have next : (runOn passes (Dispatch.block place block)).2[place]? =
          some (pass.tried block) := by
        rw [done, getElem?_set_append found]
      rw [run_attempt_cons (runOn_block_look found block) rfl]
      exact induction (reachable.block place found block) next

theorem run_attempt (blocks : List Block) (found : passes[place]? = some pass) :
    ∃ started, StateT.run (attempt place blocks) passes =
      (pass.trail blocks, passes.set place (blocks.foldl Pass.tried pass) ++ started) := by
  induction blocks generalizing passes pass with
  | nil =>
      refine ⟨[], ?_⟩
      rw [attempt, List.foldl_nil, set_of_getElem? found, List.append_nil]
      rfl
  | cons block blocks induction =>
      obtain ⟨started, -, done⟩ := leaves_block block found
      obtain ⟨later, others⟩ := induction (getElem?_set_append found _ started)
      refine ⟨started ++ later, ?_⟩
      rw [run_attempt_cons (runOn_block_look found block) (by rw [done]; exact others),
        set_set_append found, List.append_assoc]
      rfl

end attempt

theorem salvage_eq (blocks : List Block) :
    salvage blocks = (Pass.trail {} blocks, (blocks.foldl Pass.tried {}).finish) := by
  have found : [({} : Pass)][0]? = some ({} : Pass) := rfl
  obtain ⟨started, done⟩ := run_attempt blocks found
  rw [salvage, done]
  rfl

/-- A computation that leaves no trace in a pass when it stops.  When it comes to its end, it may
have changed the element that the pass pointed to and added others behind, and that is all. -/
structure Traceless (passes : List Pass) (place : Nat) (pass : Pass) (work : Dispatch Unit) :
    Prop where
  stopped : ∀ node after, runOn passes work = (.error node, after) → passes <+: after
  ended : ∀ after, runOn passes work = (.ok (), after) →
    ∃ next, pass.KeepsOthers next ∧ passes.set place next <+: after

theorem traceless_block {passes : List Pass} {place : Nat} {pass : Pass}
    (found : passes[place]? = some pass) (block : Block) :
    Traceless passes place pass (Dispatch.block place block) := by
  obtain ⟨started, -, done⟩ := leaves_block block found
  cases stepped : pass.step block with
  | ok next =>
      rw [stepped, Pass.tried_of_ok stepped] at done
      constructor
      case stopped => simp [done, Except.map]
      case ended =>
        intro after same
        obtain rfl := congrArg Prod.snd (done.symm.trans same)
        exact ⟨next, Pass.keepsOthers_step stepped, List.prefix_append ..⟩
  | error node =>
      rw [stepped, Pass.tried_of_error stepped, set_of_getElem? found] at done
      constructor
      case stopped =>
        intro cause after same
        obtain rfl := congrArg Prod.snd (done.symm.trans same)
        exact List.prefix_append ..
      case ended => simp [done, Except.map]

/-- A sequence that is rendered block by block, going on behind each failure, has the outcomes and
the end that it has without the blocks that fail, and these are the blocks with a node that has no
meaning for cards.  A block that fails leaves every pass as it was, also that of a page or of a
quote around it.  At all times each pass points to its last element, the only one that the next
block may change. -/
theorem salvage_traceless (blocks : List Block) :
    (salvage (blocks.filter Block.isSound) =
        ((salvage blocks).1.filter Except.isOk, (salvage blocks).2) ∧
      (salvage blocks).1.map Except.isOk = blocks.map Block.isSound ∧
      renderBody (blocks.filter Block.isSound) = .ok (salvage blocks).2.body) ∧
    Reachable (StateT.run (attempt 0 blocks) [({} : Pass)]).2 ∧
    ∀ passes, Reachable passes →
      (∀ pass ∈ passes, pass.PointsToLast) ∧
      ∀ place pass, passes[place]? = some pass → ∀ block,
        Traceless passes place pass (Dispatch.block place block) := by
  refine ⟨⟨?_, ?_, ?_⟩, Reachable.page.attempt blocks rfl, fun passes reachable =>
    ⟨reachable.pointsToLast, fun place pass found block => traceless_block found block⟩⟩
  · rw [salvage_eq, salvage_eq, Pass.trail_filter, Pass.foldl_tried_filter]
  · rw [salvage_eq, Pass.map_isOk_trail]
  · rw [salvage_eq, renderBody, Pass.run_filter]
    rfl

/-- A quote that stops in a quote of its own, behind text and a thematic break. -/
def strangeQuote : Block :=
  .quote [.html "b", .rule "---", .quote [.html "c", .rule "---", .unknown "toc" "[toc]"] ""] ""

/-- A table that stops in its last cell. -/
def strangeTable : Block :=
  .table [[.literal .plain "h" "h"]]
    [[[.literal .plain "x" "x"], [.unknown "mark" "m" "==m=="]]] ""

/-- Behind text and a thematic break, a quote and a table that fail leave nothing but the passes of
the two quotes, and the break goes on waiting for the text behind them. -/
theorem salvage_traceless_strange :
    (salvage [.html "a", .rule "---", .html "d"]).2.separators = [false, true] ∧
    salvage [.html "a", .rule "---", .html "d"] =
      ((salvage [.html "a", strangeQuote, .rule "---", strangeTable, .html "d"]).1.filter
        Except.isOk, (salvage [.html "a", strangeQuote, .rule "---", strangeTable, .html "d"]).2) ∧
    ∃ pass after, pass.pending = true ∧ pass.last = some 0 ∧ pass.PointsToLast ∧
      runOn [pass] (Dispatch.block 0 strangeQuote) = (.error (.block "toc" "[toc]"), after) ∧
      [pass] <+: after ∧ after.length = 3 := by
  obtain ⟨⟨same, -⟩, -, laws⟩ :=
    salvage_traceless [.html "a", strangeQuote, .rule "---", strangeTable, .html "d"]
  refine ⟨rfl, same, ?_⟩
  have reachable := (Reachable.page.block 0 rfl (.html "a")).block 0 rfl (.rule "---")
  obtain ⟨points, traceless⟩ := laws _ reachable
  exact ⟨_, _, rfl, rfl, points _ (.head _), rfl, (traceless 0 _ rfl strangeQuote).stopped _ _ rfl,
    rfl⟩

end Dispatch

end CardPress
