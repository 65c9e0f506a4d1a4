import CardPress.Proofs.Document.Flattening

/-!
# Nesting of inline tokens

Of any inline tokens, balanced or not, an opening one is either closed by the closing token behind
the well-nested tokens that its container holds, or everything behind it stands in its container.
So the stack of open containers can be told by recursion on the tokens: each container is read as a
list of tokens of its own.
-/

namespace CardPress

/-! ## Well-nested tokens -/

/-- A token that neither opens nor closes a container. -/
def InlineToken.IsSingle (token : InlineToken) : Prop :=
  (∃ content, token.role = .text content) ∨ ∃ node, token.role = .node node

theorem InlineToken.single_or_container (token : InlineToken) :
    token.IsSingle ∨ (∃ start, token.role = .opening start) ∨ token.role = .closing := by
  cases role : token.role with
  | text content => exact .inl (.inl ⟨content, role⟩)
  | node node => exact .inl (.inr ⟨node, role⟩)
  | opening start => exact .inr (.inl ⟨start, rfl⟩)
  | closing => exact .inr (.inr rfl)

/-- Inline tokens in which each opening token has a closing one of its own, whatever their types,
and each closing token an opening one. -/
inductive WellNested : List InlineToken → Prop
  | nil : WellNested []
  | single {token : InlineToken} {tokens : List InlineToken} (single : token.IsSingle)
      (later : WellNested tokens) : WellNested (token :: tokens)
  | container {opening closing : InlineToken} {start : Opening} {inner tokens : List InlineToken}
      (opens : opening.role = .opening start) (inside : WellNested inner)
      (closes : closing.role = .closing) (later : WellNested tokens) :
      WellNested (opening :: inner ++ closing :: tokens)

/-- Whether the tokens behind an opening one close its container: they start with the well-nested
tokens that it holds, and a closing one follows. -/
def CloseContainer (behind : List InlineToken) : Prop :=
  ∃ inner closing after,
    WellNested inner ∧ closing.role = .closing ∧ behind = inner ++ closing :: after

namespace CloseContainer

/-- What stands behind the end of a container does not matter to it. -/
theorem append {behind : List InlineToken} (closed : CloseContainer behind)
    (back : List InlineToken) : CloseContainer (behind ++ back) := by
  obtain ⟨inner, closing, after, nested, closes, rfl⟩ := closed
  exact ⟨inner, closing, after ++ back, nested, closes, by simp⟩

theorem of_single {token : InlineToken} {tokens : List InlineToken} (single : token.IsSingle)
    (closed : CloseContainer tokens) : CloseContainer (token :: tokens) := by
  obtain ⟨inner, closing, after, nested, closes, rfl⟩ := closed
  exact ⟨token :: inner, closing, after, .single single nested, closes, rfl⟩

theorem of_closing {token : InlineToken} (closes : token.role = .closing)
    (tokens : List InlineToken) : CloseContainer (token :: tokens) :=
  ⟨[], token, tokens, .nil, closes, rfl⟩

theorem of_container {opening closing : InlineToken} {start : Opening}
    {inner tokens : List InlineToken} (opens : opening.role = .opening start)
    (inside : WellNested inner) (closes : closing.role = .closing)
    (closed : CloseContainer tokens) :
    CloseContainer (opening :: inner ++ closing :: tokens) := by
  obtain ⟨held, last, after, nested, lastCloses, rfl⟩ := closed
  exact ⟨opening :: inner ++ closing :: held, last, after,
    .container opens inside closes nested, lastCloses, by simp⟩

end CloseContainer

/-- Inline tokens are read by recursion on their containers: a container that is closed is read
apart from what follows it, and one that is not takes in all that follows. -/
@[elab_as_elim]
theorem InlineToken.nesting_induction {motive : List InlineToken → Prop} (nil : motive [])
    (single : ∀ token tokens, token.IsSingle → motive tokens → motive (token :: tokens))
    (stray : ∀ token tokens, token.role = .closing → motive tokens → motive (token :: tokens))
    (closed : ∀ opening start inner closing after, opening.role = .opening start →
      WellNested inner → closing.role = .closing → motive inner → motive after →
        motive (opening :: inner ++ closing :: after))
    (unclosed : ∀ opening start behind, opening.role = .opening start →
      ¬CloseContainer behind → motive behind → motive (opening :: behind))
    (tokens : List InlineToken) : motive tokens := by
  induction counted : tokens.length using Nat.strongRecOn generalizing tokens with
  | _ count induction =>
      cases tokens with
      | nil => exact nil
      | cons token rest =>
          rw [List.length_cons] at counted
          have later : motive rest := induction rest.length (by omega) rest rfl
          obtain alone | ⟨start, opens⟩ | closes := token.single_or_container
          · exact single token rest alone later
          · by_cases ends : CloseContainer rest
            · obtain ⟨inner, closing, after, nested, closes, rfl⟩ := ends
              rw [List.length_append, List.length_cons] at counted
              have inside : motive inner := induction inner.length (by omega) inner rfl
              have behind : motive after := induction after.length (by omega) after rfl
              exact closed token start inner closing after opens nested closes inside behind
            · exact unclosed token start rest opens ends later
          · exact stray token rest closes later

/-! ## Reading by recursion -/

namespace Inline

/-- The nodes of some tokens behind nodes that are read already, last one first. -/
def readBehind (nodes : List Inline) (tokens : List InlineToken) : List Inline :=
  (tokens.foldl InlineBuilder.step { nodes }).finish

theorem ofTokens_eq_readBehind (tokens : List InlineToken) :
    ofTokens tokens = readBehind [] tokens := rfl

@[simp]
theorem readBehind_nil (nodes : List Inline) : readBehind nodes [] = nodes.reverse := rfl

end Inline

namespace InlineBuilder

theorem unwind_append (nodes : List Inline) (inner outer : List (Opening × List Inline)) :
    unwind nodes (inner ++ outer) = unwind (unwind nodes inner) outer := by
  induction inner generalizing nodes with
  | nil => rfl
  | cons container inner induction =>
      obtain ⟨opening, before⟩ := container
      exact induction (opening.abandon nodes.reverse :: before)

/-- A single token does not look at the containers that are open. -/
theorem step_single {token : InlineToken} (single : token.IsSingle) (nodes : List Inline)
    (outer : List (Opening × List Inline)) :
    ({ nodes, outer } : InlineBuilder).step token =
      { nodes := (({ nodes } : InlineBuilder).step token).nodes, outer } := by
  obtain ⟨content, role⟩ | ⟨node, role⟩ := single
  · simp only [step, role, addText]
    split
    · rfl
    · split <;> rfl
  · simp only [step, role]
    rfl

theorem step_stray {token : InlineToken} (closes : token.role = .closing)
    (nodes : List Inline) : ({ nodes } : InlineBuilder).step token = { nodes } := by
  rw [step, closes]
  rfl

end InlineBuilder

open InlineBuilder

/-- Tokens that only add nodes to the innermost container add the children of a fresh one. -/
theorem foldl_step_enter {inner : List InlineToken}
    (flat : ∀ builder : InlineBuilder, inner.foldl step builder =
      { builder with nodes := (Inline.readBehind builder.nodes inner).reverse })
    (start : Opening) (builder : InlineBuilder) :
    inner.foldl step (builder.enter start) =
      (builder.enter start).addAll (Inline.ofTokens inner) := by
  rw [flat]
  simp [enter, addAll, Inline.ofTokens_eq_readBehind]

/-- Well-nested tokens add their nodes to the innermost container and leave the others alone. -/
theorem WellNested.foldl_step {tokens : List InlineToken} (nested : WellNested tokens)
    (builder : InlineBuilder) :
    tokens.foldl step builder =
      { builder with nodes := (Inline.readBehind builder.nodes tokens).reverse } := by
  induction nested generalizing builder with
  | nil => simp
  | @single token tokens single later induction =>
      have stepped : builder.step token = _ := step_single single builder.nodes builder.outer
      rw [Inline.readBehind, List.foldl_cons, List.foldl_cons, stepped, induction,
        step_single single builder.nodes []]
      rfl
  | @container opening closing start inner tokens opens inside closes later insideInduction
      laterInduction =>
      have children := foldl_step_enter insideInduction start
      rw [Inline.readBehind, foldl_step_container builder opens closes (children builder),
        foldl_step_container _ opens closes (children _), laterInduction]
      rfl

/-- The tokens of a container that is closed add one node. -/
theorem foldl_step_closed {opening closing : InlineToken} {start : Opening}
    {inner : List InlineToken} (opens : opening.role = .opening start)
    (nested : WellNested inner) (closes : closing.role = .closing) (builder : InlineBuilder)
    (tokens : List InlineToken) :
    (opening :: inner ++ closing :: tokens).foldl step builder =
      tokens.foldl step (builder.addNode (start.close (Inline.ofTokens inner))) :=
  foldl_step_container builder opens closes (foldl_step_enter nested.foldl_step start builder)
    tokens

/-- Tokens that do not close a container never get to the ones around it. -/
theorem foldl_step_of_unclosed {tokens : List InlineToken} (unclosed : ¬CloseContainer tokens)
    (nodes : List Inline) (outer : List (Opening × List Inline)) :
    tokens.foldl step { nodes, outer } =
      { nodes := (tokens.foldl step { nodes }).nodes
        outer := (tokens.foldl step { nodes }).outer ++ outer } := by
  induction tokens using InlineToken.nesting_induction generalizing nodes outer with
  | nil => rfl
  | single token tokens single induction =>
      have later : ¬CloseContainer tokens := fun closed => unclosed (.of_single single closed)
      rw [List.foldl_cons, List.foldl_cons, step_single single nodes outer, induction later,
        step_single single nodes []]
  | stray token tokens closes induction => exact absurd (.of_closing closes tokens) unclosed
  | closed opening start inner closing after opens nested closes insideInduction laterInduction =>
      have later : ¬CloseContainer after :=
        fun closed => unclosed (.of_container opens nested closes closed)
      rw [foldl_step_closed opens nested closes, foldl_step_closed opens nested closes]
      exact laterInduction later _ outer
  | unclosed opening start behind opens never induction =>
      have entered (outer : List (Opening × List Inline)) :
          ({ nodes, outer } : InlineBuilder).step opening =
            { nodes := [], outer := (start, nodes) :: outer } := by
        rw [step, opens]
        rfl
      rw [List.foldl_cons, List.foldl_cons, entered, entered, induction never [] [(start, nodes)],
        induction never [] ((start, nodes) :: outer)]
      simp

namespace Inline

theorem readBehind_single {token : InlineToken} (single : token.IsSingle) (nodes : List Inline)
    (tokens : List InlineToken) :
    readBehind nodes (token :: tokens) =
      readBehind (({ nodes } : InlineBuilder).step token).nodes tokens := by
  rw [readBehind, List.foldl_cons, step_single single]
  rfl

/-- A closing token that has nothing to close is passed over. -/
theorem readBehind_stray {token : InlineToken} (closes : token.role = .closing)
    (nodes : List Inline) (tokens : List InlineToken) :
    readBehind nodes (token :: tokens) = readBehind nodes tokens := by
  rw [readBehind, List.foldl_cons, step_stray closes]
  rfl

/-- A container that is closed is one node, whose children are read from the tokens in it. -/
theorem readBehind_closed {opening closing : InlineToken} {start : Opening}
    {inner : List InlineToken} (opens : opening.role = .opening start)
    (nested : WellNested inner) (closes : closing.role = .closing) (nodes : List Inline)
    (tokens : List InlineToken) :
    readBehind nodes (opening :: inner ++ closing :: tokens) =
      readBehind (start.close (ofTokens inner) :: nodes) tokens := by
  rw [readBehind, foldl_step_closed opens nested closes]
  rfl

/-- A container that is never closed is the last node, and holds whatever is read behind it. -/
theorem readBehind_unclosed {opening : InlineToken} {start : Opening}
    {tokens : List InlineToken} (opens : opening.role = .opening start)
    (never : ¬CloseContainer tokens) (nodes : List Inline) :
    readBehind nodes (opening :: tokens) =
      nodes.reverse ++ [start.abandon (ofTokens tokens)] := by
  have entered : ({ nodes } : InlineBuilder).step opening =
      { nodes := [], outer := [(start, nodes)] } := by
    rw [step, opens]
    rfl
  rw [readBehind, List.foldl_cons, entered, foldl_step_of_unclosed never, finish, unwind_append]
  exact List.reverse_cons

end Inline

end CardPress
