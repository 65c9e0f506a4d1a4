import CardPress.Document.Blocks
import CardPress.Proofs.Document.Spans
import CardPress.Proofs.Document.TableTokens

/-!
# Forests of block tokens

The well-nested token streams are the flattened forests of block nodes.  A tree stands for one
block: whatever is inside a list or an unknown container is passed over, and a quote is the forest
of its children, with its own lines.
-/

namespace CardPress

/-! ## Forests -/

/-- The meaning of a block token that stands alone. -/
inductive LeafRole where
  | code
  | rule
  | html
  | definition
  /-- A token without a meaning. -/
  | unknown
  deriving DecidableEq, Repr

/-- A tree of block tokens.  The content of a list and of an unknown container is kept flat, because
only the levels of its tokens matter. -/
inductive BlockNode where
  | heading (level : Fin 6) (opening inline closing : BlockToken)
  | paragraph (opening inline closing : BlockToken)
  | leaf (role : LeafRole) (token : BlockToken)
  | list (ordered : Bool) (opening : BlockToken) (content : List BlockToken)
      (closing : BlockToken)
  | table (tokens : TableTokens)
  | quote (opening : BlockToken) (children : List BlockNode) (closing : BlockToken)
  /-- A container without a meaning. -/
  | unknown (opening : BlockToken) (content : List BlockToken) (closing : BlockToken)

namespace BlockNode

/-- The first token of a tree. -/
def opening : BlockNode → BlockToken
  | heading _ opening _ _ => opening
  | paragraph opening _ _ => opening
  | leaf _ token => token
  | list _ opening _ _ => opening
  | table tokens => tokens.opening
  | quote opening _ _ => opening
  | unknown opening _ _ => opening

mutual

/-- The tokens of a tree. -/
def tokens : BlockNode → List BlockToken
  | heading _ opening inline closing => [opening, inline, closing]
  | paragraph opening inline closing => [opening, inline, closing]
  | leaf _ token => [token]
  | list _ opening content closing => enclose opening content closing
  | table tokens => tokens.tokens
  | quote opening children closing => enclose opening (flatten children) closing
  | unknown opening content closing => enclose opening content closing

/-- The tokens of a forest. -/
def flatten : List BlockNode → List BlockToken
  | [] => []
  | node :: nodes => node.tokens ++ flatten nodes

end

end BlockNode

/-- The token types with a meaning of their own. -/
def knownTypes : List String :=
  ["heading_open", "paragraph_open", "bullet_list_open", "ordered_list_open", "fence",
    "code_block", "hr", "table_open", "blockquote_open", "html_block", "definition"]

/-- The tokens that stand alone with a given meaning. -/
def LeafRole.Admits (token : BlockToken) : LeafRole → Prop
  | code => token.type = "fence" ∨ token.type = "code_block"
  | rule => token.type = "hr"
  | html => token.type = "html_block"
  | definition => token.type = "definition"
  | unknown => token.nesting = 0 ∧ token.type ∉ knownTypes

/-- A token that covers lines of the page, or none. -/
def BlockToken.Mapped (count : Nat) (token : BlockToken) : Prop :=
  ∀ span ∈ token.span, Span.Within count span

/-- A pair of tokens on one level around deeper ones. -/
structure Encloses (opening : BlockToken) (content : List BlockToken) (closing : BlockToken) :
    Prop where
  deeper : ∀ token ∈ content, opening.level < token.level
  closes : closing.nesting = -1
  level_eq : closing.level = opening.level

namespace BlockNode

mutual

/-- A tree whose tokens have the types and levels that its shape asks for, over a number of lines.
A quote says which lines it covers, and no tree inside it starts with the type of its end. -/
def WellFormed (count : Nat) : BlockNode → Prop
  | heading level opening _ _ =>
      opening.type = "heading_open" ∧ opening.tag = "h" ++ toString (level.val + 1) ∧
        opening.Mapped count
  | paragraph opening _ _ => opening.type = "paragraph_open" ∧ opening.Mapped count
  | leaf role token => role.Admits token ∧ token.Mapped count
  | list ordered opening content closing =>
      opening.type = (if ordered then "ordered_list_open" else "bullet_list_open") ∧
        Encloses opening content closing ∧ opening.Mapped count
  | table tokens => tokens.WellFormed ∧ tokens.opening.Mapped count
  | quote opening children closing =>
      opening.type = "blockquote_open" ∧ opening.span.isSome ∧ opening.Mapped count ∧
        closing.type = "blockquote_close" ∧
        (∀ child ∈ children, child.opening.type ≠ "blockquote_close") ∧
        allWellFormed count children
  | unknown opening content closing =>
      opening.nesting = 1 ∧ opening.type ∉ knownTypes ∧ Encloses opening content closing ∧
        opening.Mapped count

/-- A forest of well-formed trees. -/
def allWellFormed (count : Nat) : List BlockNode → Prop
  | [] => True
  | node :: nodes => node.WellFormed count ∧ allWellFormed count nodes

end

end BlockNode

/-! ## Their blocks -/

/-- The block of a token that stands alone. -/
def LeafRole.block (token : BlockToken) (raw : String) : LeafRole → Block
  | code => .code (fenceLanguage token.info) (dropLineFeeds token.content) raw
  | rule => .rule raw
  | html => .html (dropLineFeeds token.content)
  | definition => token.definition.block raw
  | unknown => .unknown token.type (firstNonempty raw token.content)

/-- The lines inside a quote. -/
def quoteLines (lines : List String) : Option Span → List String
  | none => lines
  | some span => innerLines lines span

@[simp]
theorem length_quoteLines (lines : List String) (span : Option Span) :
    (quoteLines lines span).length = lines.length := by
  cases span with
  | none => rfl
  | some span => exact length_innerLines lines span

namespace BlockNode

mutual

/-- The block of a tree, without blank lines. -/
def block (lines : List String) : BlockNode → Block
  | heading level opening inline _ =>
      .heading (level.val + 1) (Inline.ofTokens inline.children) (sourceText lines opening.span)
  | paragraph opening inline _ =>
      paragraphBlock (Inline.ofTokens inline.children) (sourceText lines opening.span)
  | leaf role token => role.block token (sourceText lines token.span)
  | list ordered opening _ _ => .list ordered (sourceText lines opening.span)
  | table tokens => .table tokens.header tokens.rows (sourceText lines tokens.opening.span)
  | quote opening children _ =>
      .quote (blocks (quoteLines lines opening.span) children) (sourceText lines opening.span)
  | unknown opening _ _ =>
      .unknown (containerKind opening.type) (sourceText lines opening.span)

/-- The blocks of a forest, one for each tree. -/
def blocks (lines : List String) : List BlockNode → List Block
  | [] => []
  | node :: nodes => node.block lines :: blocks lines nodes

end

theorem blocks_eq_map (lines : List String) (forest : List BlockNode) :
    blocks lines forest = forest.map (block lines) := by
  induction forest with
  | nil => rfl
  | cons node forest induction => rw [blocks, induction, List.map_cons]

end BlockNode

end CardPress
