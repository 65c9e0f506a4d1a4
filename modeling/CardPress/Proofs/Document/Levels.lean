import CardPress.Proofs.Document.Decode

/-!
# Levels of a page

Every quote is a level of its own: its siblings are read against its own lines.  A level is named by
the quotes on the way to it.  The levels of the blocks that are read from a forest are read from the
levels of the forest.
-/

namespace CardPress

/-- The trees of one level of a page, with the lines that they are read against. -/
structure Siblings where
  lines : List String
  nodes : List BlockNode

/-- The siblings inside the quotes on a way into a page; each quote is given by its position among
its siblings. -/
def Siblings.level? (siblings : Siblings) : List Nat → Option Siblings
  | [] => some siblings
  | index :: path =>
      match siblings.nodes[index]? with
      | some (.quote opening children _) =>
          level? { lines := quoteLines siblings.lines opening.span, nodes := children } path
      | _ => none

/-- Blocks without the blank lines between them. -/
def Block.filled (blocks : List Block) : List Block :=
  blocks.filter fun block => !block.isSpace

/-- The blocks inside the quotes on a way into a page; the positions do not count blank lines. -/
def Block.level? (blocks : List Block) : List Nat → Option (List Block)
  | [] => some blocks
  | index :: path =>
      match (Block.filled blocks)[index]? with
      | some (.quote inner _) => level? inner path
      | _ => none

theorem Block.filled_append_of_isSpace {spaces : List Block}
    (blank : ∀ block ∈ spaces, block.isSpace) (blocks : List Block) :
    Block.filled (spaces ++ blocks) = Block.filled blocks := by
  have none_left : Block.filled spaces = [] := by
    rw [Block.filled, List.filter_eq_nil_iff]
    intro block member
    simp [blank block member]
  rw [Block.filled, List.filter_append, ← Block.filled, none_left]
  rfl

theorem Block.filled_cons {block : Block} (filled : block.isSpace = false) (blocks : List Block) :
    Block.filled (block :: blocks) = block :: Block.filled blocks :=
  List.filter_cons_of_pos (by simp [filled])

/-- Without blank lines, one block is read from each tree. -/
theorem BlockNode.filled_decodedAll (lines : List String) (sibling : Sibling)
    (nodes : List BlockNode) :
    Block.filled (decodedAll lines sibling nodes) = nodes.map (decoded lines) := by
  induction nodes generalizing sibling with
  | nil => rfl
  | cons node nodes induction =>
      rw [decodedAll, Block.filled_append_of_isSpace (sibling.isSpace_gap lines node.opening),
        Block.filled_cons (isSpace_decoded lines node), induction, List.map_cons]

namespace Siblings

/-- The blocks that are read from siblings. -/
def blocks (siblings : Siblings) : List Block :=
  BlockNode.decodedAll siblings.lines {} siblings.nodes

/-- What the trees of siblings ask for, over their lines. -/
def WellFormed (siblings : Siblings) : Prop :=
  BlockNode.allWellFormed siblings.lines.length siblings.nodes

theorem WellFormed.node {siblings : Siblings} (formed : siblings.WellFormed) {node : BlockNode}
    (member : node ∈ siblings.nodes) : node.WellFormed siblings.lines.length := by
  obtain ⟨lines, nodes⟩ := siblings
  change BlockNode.allWellFormed lines.length nodes at formed
  change node ∈ nodes at member
  change node.WellFormed lines.length
  induction nodes with
  | nil => cases member
  | cons first nodes induction =>
      obtain rfl | later := List.mem_cons.mp member
      · exact formed.1
      · exact induction formed.2 later

/-- Every level of a well-formed page is well formed and is read as it would be read alone. -/
theorem level?_blocks (path : List Nat) {siblings inner : Siblings} (formed : siblings.WellFormed)
    (reached : siblings.level? path = some inner) :
    inner.WellFormed ∧ Block.level? siblings.blocks path = some inner.blocks := by
  induction path generalizing siblings with
  | nil =>
      obtain rfl := Option.some.inj reached
      exact ⟨formed, rfl⟩
  | cons index path induction =>
      rw [level?] at reached
      split at reached
      · rename_i opening children closing found
        obtain ⟨-, -, -, -, -, children_formed⟩ := formed.node (List.mem_of_getElem? found)
        have inside : WellFormed
            { lines := quoteLines siblings.lines opening.span, nodes := children } := by
          rwa [← length_quoteLines siblings.lines opening.span] at children_formed
        have block : (Block.filled siblings.blocks)[index]? =
            some (BlockNode.decoded siblings.lines (.quote opening children closing)) := by
          rw [blocks, BlockNode.filled_decodedAll, List.getElem?_map, found]
          rfl
        rw [Block.level?, block]
        exact induction inside reached
      · cases reached

end Siblings

end CardPress
