import CardPress.Proofs.Document.Decode
import CardPress.Proofs.Document.Flattening
import CardPress.Proofs.Render.FailFast
import Mathlib.Data.List.Flatten

/-!
# One vocabulary

Reading tokens and rendering blocks share one vocabulary: a token whose type has no meaning becomes
a node that cannot be rendered, and every other token becomes one that can.  A token is visible when
it does not stand inside a list or inside a container without a meaning.  The central theorem says
that a well-nested stream fails to render exactly when it shows a token of an unknown type, and that
the first of these tokens names the failure.
-/

namespace CardPress

/-! ## Running text -/

/-- The reports of running text. -/
def Inline.reports (nodes : List Inline) : List Unsupported :=
  PageNode.reports (Inline.allReached nodes)

/-- The report of a token whose type has no meaning. -/
def InlineToken.report? (token : InlineToken) : Option Unsupported :=
  if token.type ∈ inlineTypes then none
  else some (.inline token.type (firstNonempty token.content token.markup))

theorem InlineToken.toList_report? (token : InlineToken) :
    token.report?.toList =
      match token.role with
      | .node node => PageNode.reports (.inline node :: node.inside)
      | _ => [] := by
  by_cases known : token.type ∈ inlineTypes
  · rw [report?, if_pos known]
    simp only [inlineTypes, List.mem_cons, List.not_mem_nil, or_false] at known
    rcases known with type | type | type | type | type | type | type | type | type | type | type |
      type | type | type | type <;> simp only [role, type] <;> rfl
  · rw [report?, if_neg known, role_of_unknown known]
    rfl

theorem Inline.reports_reverse_cons (node : Inline) (before : List Inline) :
    Inline.reports (node :: before).reverse =
      Inline.reports before.reverse ++ PageNode.reports (.inline node :: node.inside) := by
  simp [Inline.reports, Inline.allReached_append, Inline.allReached]

/-- A container adds no report to those of its children, whether it is closed or not. -/
theorem Opening.reports_close (opening : Opening) (children : List Inline) :
    PageNode.reports (.inline (opening.close children) :: (opening.close children).inside) =
      Inline.reports children := by
  cases opening <;> exact PageNode.reports_cons rfl _

theorem Opening.reports_abandon (opening : Opening) (children : List Inline) :
    PageNode.reports (.inline (opening.abandon children) :: (opening.abandon children).inside) =
      Inline.reports children := by
  cases opening <;> exact PageNode.reports_cons rfl _

namespace InlineBuilder

/-- The reports of the nodes in front of the innermost container. -/
def outerReports : List (Opening × List Inline) → List Unsupported
  | [] => []
  | (_, before) :: outer => outerReports outer ++ Inline.reports before.reverse

/-- The reports of all nodes read so far. -/
def reports (builder : InlineBuilder) : List Unsupported :=
  outerReports builder.outer ++ Inline.reports builder.nodes.reverse

theorem reports_addNode (node : Inline) (builder : InlineBuilder) :
    (builder.addNode node).reports =
      builder.reports ++ PageNode.reports (.inline node :: node.inside) := by
  rw [reports, addNode, Inline.reports_reverse_cons, ← List.append_assoc]
  rfl

theorem reports_addText (content : String) (builder : InlineBuilder) :
    (builder.addText content).reports = builder.reports := by
  by_cases nothing : content = ""
  · rw [nothing, addText_empty]
  rcases builder.apart_or_joined with apart | ⟨text, raw, before, last⟩
  · rw [addText_apart apart nothing, reports_addNode]
    exact List.append_nil _
  · obtain ⟨nodes, outer⟩ := builder
    obtain rfl : nodes = _ := last
    rw [addText_joined, reports, reports, Inline.reports_reverse_cons, Inline.reports_reverse_cons]
    rfl

/-- Each token adds its own report to those in front of it. -/
theorem reports_step (builder : InlineBuilder) (token : InlineToken) :
    (builder.step token).reports = builder.reports ++ token.report?.toList := by
  rw [InlineToken.toList_report?, step]
  cases token.role with
  | text content => rw [reports_addText, List.append_nil]
  | node node => exact reports_addNode node builder
  | opening opening => rfl
  | closing =>
      obtain ⟨nodes, outer⟩ := builder
      cases outer with
      | nil => exact (List.append_nil _).symm
      | cons container outer =>
          -- The children leave their level, and their reports stay where they were.
          obtain ⟨opening, before⟩ := container
          rw [List.append_nil, leave, reports, Inline.reports_reverse_cons,
            Opening.reports_close, ← List.append_assoc]
          rfl

theorem reports_foldl_step (tokens : List InlineToken) (builder : InlineBuilder) :
    (tokens.foldl step builder).reports =
      builder.reports ++ tokens.filterMap InlineToken.report? := by
  induction tokens generalizing builder with
  | nil => exact (List.append_nil _).symm
  | cons token tokens induction =>
      rw [List.foldl_cons, induction, reports_step, List.append_assoc]
      cases found : token.report? with
      | none => rw [List.filterMap_cons_none found]; rfl
      | some report => rw [List.filterMap_cons_some found]; rfl

theorem reports_unwind (nodes : List Inline) (outer : List (Opening × List Inline)) :
    Inline.reports (unwind nodes outer).reverse =
      outerReports outer ++ Inline.reports nodes.reverse := by
  induction outer generalizing nodes with
  | nil => rfl
  | cons container outer induction =>
      obtain ⟨opening, before⟩ := container
      rw [unwind, induction, Inline.reports_reverse_cons, Opening.reports_abandon,
        ← List.append_assoc]
      rfl

end InlineBuilder

/-- The nodes without a meaning that are read from tokens are the tokens without a meaning, in the
same order, whether or not containers are closed. -/
theorem Inline.reports_ofTokens (tokens : List InlineToken) :
    Inline.reports (Inline.ofTokens tokens) = tokens.filterMap InlineToken.report? := by
  have read := InlineBuilder.reports_foldl_step tokens {}
  rw [Inline.ofTokens, InlineBuilder.finish, InlineBuilder.reports_unwind]
  exact read

/-! ## Names of containers -/

theorem containerKind_append_open (stem : String) : containerKind (stem ++ "_open") = stem := by
  have ending : "_open".toList.isSuffixOf (stem ++ "_open").toList := by
    rw [List.isSuffixOf_iff_suffix, String.toList_append]
    exact List.suffix_append _ _
  simp only [containerKind, ending, if_true]
  rw [String.toList_append, List.length_append, Nat.add_sub_cancel, List.take_left,
    String.ofList_toList]

/-- The name of a container is its type without the ending, if it has that ending. -/
theorem containerKind_names (type : String) :
    type = containerKind type ++ "_open" ∨
      type = containerKind type ∧ ∀ stem, type ≠ stem ++ "_open" := by
  by_cases ending : ∃ stem, type = stem ++ "_open"
  · obtain ⟨stem, rfl⟩ := ending
    exact .inl (by rw [containerKind_append_open])
  · have other : ¬ "_open".toList.isSuffixOf type.toList := by
      intro suffix
      obtain ⟨stem, split⟩ := List.isSuffixOf_iff_suffix.mp suffix
      exact ending ⟨String.ofList stem, by rw [← String.toList_inj]; simp [← split]⟩
    right
    refine ⟨?_, fun stem equal => ending ⟨stem, equal⟩⟩
    simp only [containerKind, other]
    rfl

/-! ## Visible tokens -/

/-- The types of the tokens that start a block of CommonMark, a table or a link definition, in the
order in which their rules are tried. -/
def standardBlockTypes : List String :=
  ["table_open", "code_block", "fence", "blockquote_open", "hr", "bullet_list_open",
    "ordered_list_open", "definition", "html_block", "heading_open", "paragraph_open"]

/-- The types of the tokens of running text in CommonMark with strikethrough. -/
def standardInlineTypes : List String :=
  ["text", "softbreak", "hardbreak", "text_special", "code_inline", "s_open", "s_close",
    "strong_open", "strong_close", "em_open", "em_close", "link_open", "link_close", "image",
    "html_inline"]

/-- A token that shows on the page: one of the block structure, or one of running text. -/
inductive VisibleToken where
  | block (token : BlockToken)
  | inline (token : InlineToken)

namespace VisibleToken

/-- Whether the type of a token has a meaning. -/
def isKnown : VisibleToken → Bool
  | .block token => token.type ∈ knownTypes
  | .inline token => token.type ∈ inlineTypes

/-- Whether a token has one of the standard types. -/
def isStandard : VisibleToken → Bool
  | .block token => token.type ∈ standardBlockTypes
  | .inline token => token.type ∈ standardInlineTypes

/-- The kind that a token is reported as: an opening token of the block structure by the name of
its container, all others by their type. -/
def kind : VisibleToken → String
  | .block token => if token.nesting = 1 then containerKind token.type else token.type
  | .inline token => token.type

/-- The name that a token is reported by: for an opening token of the block structure its type
without the ending `_open`, if it has that ending, and for all others their type. -/
def Names (name : String) : VisibleToken → Prop
  | .block token =>
      if token.nesting = 1 then
        token.type = name ++ "_open" ∨ token.type = name ∧ ∀ stem, token.type ≠ stem ++ "_open"
      else token.type = name
  | .inline token => token.type = name

/-- The kinds of the tokens without a meaning, in order. -/
def unknownKinds (tokens : List VisibleToken) : List String :=
  (tokens.filter fun token => !token.isKnown).map kind

@[simp]
theorem unknownKinds_append (front back : List VisibleToken) :
    unknownKinds (front ++ back) = unknownKinds front ++ unknownKinds back := by
  simp [unknownKinds]

theorem isKnown_of_isStandard {token : VisibleToken} (standard : token.isStandard = true) :
    token.isKnown = true := by
  have blocks : standardBlockTypes ⊆ knownTypes := by decide
  have inlines : standardInlineTypes ⊆ inlineTypes := by decide
  cases token with
  | block token => exact decide_eq_true (blocks (of_decide_eq_true standard))
  | inline token => exact decide_eq_true (inlines (of_decide_eq_true standard))

theorem names_kind (token : VisibleToken) : token.Names token.kind := by
  cases token with
  | inline token => rfl
  | block token =>
      by_cases opens : token.nesting = 1
      · simp only [Names, kind, if_pos opens]
        exact containerKind_names token.type
      · simp only [Names, kind, if_neg opens]

theorem unknownKinds_cons {token : VisibleToken} (known : token.isKnown = true)
    (tokens : List VisibleToken) : unknownKinds (token :: tokens) = unknownKinds tokens := by
  simp [unknownKinds, known]

theorem unknownKinds_of_known {token : BlockToken} (known : token.type ∈ knownTypes) :
    unknownKinds [.block token] = [] := by
  simp [unknownKinds, isKnown, known]

theorem unknownKinds_of_unknown {token : BlockToken} (strange : token.type ∉ knownTypes) :
    unknownKinds [.block token] =
      [if token.nesting = 1 then containerKind token.type else token.type] := by
  simp [unknownKinds, isKnown, strange, kind]

end VisibleToken

/-- A token of the block structure, in front of the running text that it holds. -/
def BlockToken.withText (token : BlockToken) : List VisibleToken :=
  .block token :: token.children.map .inline

/-- The cells of a table, the header cells first. -/
def TableTokens.cells (table : TableTokens) : List CellTokens :=
  (table.head.rows ++ table.body.toList.flatMap SectionTokens.rows).flatMap RowTokens.cells

/-- The running text of a cell. -/
def CellTokens.visible (cell : CellTokens) : List VisibleToken :=
  cell.inline.children.map .inline

namespace BlockNode

mutual

/-- The tokens that show behind the first token of a tree.  Nothing inside a list or a container
without a meaning shows. -/
def shown : BlockNode → List VisibleToken
  | heading _ _ inline _ => inline.children.map .inline
  | paragraph _ inline _ => inline.children.map .inline
  | table tokens => tokens.cells.flatMap CellTokens.visible
  | quote _ children _ => allVisible children
  | _ => []

/-- The visible tokens of a forest, tree by tree. -/
def allVisible : List BlockNode → List VisibleToken
  | [] => []
  | node :: nodes => (.block node.opening :: node.shown) ++ allVisible nodes

end

end BlockNode

open VisibleToken

theorem kinds_reports_ofTokens (tokens : List InlineToken) :
    (Inline.reports (Inline.ofTokens tokens)).map Unsupported.kind =
      unknownKinds (tokens.map .inline) := by
  rw [Inline.reports_ofTokens]
  induction tokens with
  | nil => rfl
  | cons token tokens induction =>
      by_cases known : token.type ∈ inlineTypes
      · have unreported : token.report? = none := if_pos known
        have shown : (VisibleToken.inline token).isKnown = true := by simpa [isKnown] using known
        rw [List.filterMap_cons_none unreported, List.map_cons, unknownKinds_cons shown, induction]
      · have reported : token.report? = some (.inline token.type
            (firstNonempty token.content token.markup)) := if_neg known
        rw [List.filterMap_cons_some reported, List.map_cons, induction]
        simp [unknownKinds, isKnown, known, kind, Unsupported.kind]

/-! ## Blocks -/

/-- The kinds of the nodes without a meaning, in order. -/
def PageNode.unknownKinds (nodes : List PageNode) : List String :=
  (PageNode.reports nodes).map Unsupported.kind

theorem PageNode.unknownKinds_append (front back : List PageNode) :
    PageNode.unknownKinds (front ++ back) =
      PageNode.unknownKinds front ++ PageNode.unknownKinds back := by
  simp [PageNode.unknownKinds]

theorem PageNode.unknownKinds_cons {node : PageNode} (supported : node.isSupported = true)
    (nodes : List PageNode) :
    PageNode.unknownKinds (node :: nodes) = PageNode.unknownKinds nodes := by
  rw [PageNode.unknownKinds, PageNode.reports_cons supported, PageNode.unknownKinds]

theorem isSupported_paragraphBlock (inlines : List Inline) (raw : String) :
    (PageNode.block (paragraphBlock inlines raw)).isSupported = true := by
  unfold paragraphBlock
  split <;> rfl

/-- An image alone in its paragraph is known, so that no report is lost when it becomes a block. -/
theorem reports_inside_paragraphBlock (inlines : List Inline) (raw : String) :
    PageNode.reports (paragraphBlock inlines raw).inside = Inline.reports inlines := by
  unfold paragraphBlock
  split <;> rfl

theorem reports_spaces {spaces : List Block} (blank : ∀ block ∈ spaces, block.isSpace) :
    PageNode.reports (Block.allReached spaces) = [] := by
  induction spaces with
  | nil => rfl
  | cons space spaces induction =>
      obtain ⟨first, others⟩ := List.forall_mem_cons.mp blank
      rw [Block.allReached, PageNode.reports_append, induction others, List.append_nil]
      cases space with
      | space raw => rfl
      | _ => cases first

theorem Cell.unknownKinds_content (cells : List CellTokens) :
    PageNode.unknownKinds (Cell.allReached (cells.map CellTokens.content)) =
      unknownKinds (cells.flatMap CellTokens.visible) := by
  induction cells with
  | nil => rfl
  | cons cell cells induction =>
      have first := kinds_reports_ofTokens cell.inline.children
      rw [List.map_cons, Cell.allReached, List.flatMap_cons, PageNode.unknownKinds_append,
        List.flatMap_cons, unknownKinds_append]
      exact congr (congrArg _ first) induction

theorem RowTokens.flatMap_content (rows : List RowTokens) :
    rows.flatMap RowTokens.content = (rows.flatMap RowTokens.cells).map CellTokens.content := by
  rw [List.map_flatMap]
  rfl

theorem TableTokens.header_append_rows (table : TableTokens) :
    table.header ++ table.rows.flatten = table.cells.map CellTokens.content := by
  rw [cells, ← RowTokens.flatMap_content, List.flatMap_append, header, rows]
  cases table.body with
  | none => rfl
  | some part => simp [List.flatMap_def]

theorem Cell.allReached_append_rows (header : List Cell) (rows : List (List Cell)) :
    Cell.allReached header ++ rows.flatMap Cell.allReached =
      Cell.allReached (header ++ rows.flatten) := by
  rw [Cell.allReached, Cell.allReached, List.flatMap_append]
  congr 1
  induction rows with
  | nil => rfl
  | cons row rows induction =>
      rw [List.flatMap_cons, List.flatten_cons, List.flatMap_append, ← induction]
      rfl

namespace BlockNode

/-- The block of a tree is reported when the first token of the tree is, and under the same kind. -/
theorem unknownKinds_opening (lines : List String) {node : BlockNode} {count : Nat}
    (formed : node.WellFormed count) :
    PageNode.unknownKinds [.block (node.decoded lines)] =
      VisibleToken.unknownKinds [.block node.opening] := by
  cases node with
  | heading level opening inline closing =>
      have known : opening.type ∈ knownTypes := by simp [knownTypes, formed.1]
      exact (unknownKinds_of_known known).symm
  | paragraph opening inline closing =>
      have known : opening.type ∈ knownTypes := by simp [knownTypes, formed.1]
      rw [BlockNode.opening, unknownKinds_of_known known]
      exact PageNode.unknownKinds_cons (isSupported_paragraphBlock _ _) []
  | leaf role token =>
      obtain ⟨admits, -⟩ := formed
      cases role with
      | unknown =>
          obtain ⟨alone, strange⟩ := admits
          rw [opening, unknownKinds_of_unknown strange, if_neg (by simp [alone])]
          rfl
      | code =>
          have known : token.type ∈ knownTypes := by
            rcases admits with type | type <;> simp [knownTypes, type]
          exact (unknownKinds_of_known known).symm
      | _ =>
          rw [LeafRole.Admits] at admits
          have known : token.type ∈ knownTypes := by simp [knownTypes, admits]
          exact (unknownKinds_of_known known).symm
  | list ordered opening content closing =>
      have known : opening.type ∈ knownTypes := by cases ordered <;> simp [knownTypes, formed.1]
      exact (unknownKinds_of_known known).symm
  | table tokens =>
      have known : tokens.opening.type ∈ knownTypes := by simp [knownTypes, formed.1.opens]
      exact (unknownKinds_of_known known).symm
  | quote opening children closing =>
      have known : opening.type ∈ knownTypes := by simp [knownTypes, formed.1]
      exact (unknownKinds_of_known known).symm
  | unknown opening content closing =>
      obtain ⟨opens, strange, -, -⟩ := formed
      rw [BlockNode.opening, unknownKinds_of_unknown strange, if_pos opens]
      rfl

mutual

theorem unknownKinds_inside (lines : List String) (node : BlockNode) {count : Nat}
    (formed : node.WellFormed count) :
    PageNode.unknownKinds (node.decoded lines).inside = VisibleToken.unknownKinds node.shown := by
  cases node with
  | heading level opening inline closing => exact kinds_reports_ofTokens inline.children
  | paragraph opening inline closing =>
      rw [shown, ← kinds_reports_ofTokens, ← reports_inside_paragraphBlock]
      rfl
  | leaf role token => cases role <;> rfl
  | list ordered opening content closing => rfl
  | table tokens =>
      rw [shown, ← Cell.unknownKinds_content, ← TableTokens.header_append_rows,
        ← Cell.allReached_append_rows]
      rfl
  | quote opening children closing =>
      exact unknownKinds_decodedAll (quoteLines lines opening.span) {} children formed.2.2.2.2.2
  | unknown opening content closing => rfl

theorem unknownKinds_decodedAll (lines : List String) (sibling : Sibling)
    (forest : List BlockNode) {count : Nat} (formed : allWellFormed count forest) :
    PageNode.unknownKinds (Block.allReached (decodedAll lines sibling forest)) =
      VisibleToken.unknownKinds (allVisible forest) := by
  cases forest with
  | nil => rfl
  | cons node forest =>
      have blank := sibling.isSpace_gap lines node.opening
      have gap : PageNode.unknownKinds (Block.allReached (sibling.gap lines node.opening)) = [] :=
        congrArg (List.map Unsupported.kind) (reports_spaces blank)
      have first : PageNode.unknownKinds
          (.block (node.decoded lines) :: (node.decoded lines).inside) =
            VisibleToken.unknownKinds (.block node.opening :: node.shown) := by
        rw [← List.singleton_append, PageNode.unknownKinds_append,
          unknownKinds_opening lines formed.1, unknownKinds_inside lines node formed.1,
          ← VisibleToken.unknownKinds_append]
        rfl
      rw [decodedAll, Block.allReached_append, PageNode.unknownKinds_append, gap, List.nil_append,
        Block.allReached, PageNode.unknownKinds_append, first,
        unknownKinds_decodedAll lines _ forest formed.2, allVisible,
        VisibleToken.unknownKinds_append]

end

end BlockNode

/-! ## Order of the visible tokens -/

/-- What shows between two tokens stands behind the first of them. -/
theorem sublist_enclose (opening closing : BlockToken) {content : List BlockToken}
    {shown : List VisibleToken} (within : shown.Sublist (content.flatMap BlockToken.withText)) :
    (.block opening :: shown).Sublist
      ((enclose opening content closing).flatMap BlockToken.withText) := by
  rw [enclose, List.flatMap_append, List.flatMap_cons, BlockToken.withText, List.cons_append,
    List.cons_append, List.append_assoc]
  apply List.Sublist.cons_cons
  apply List.sublist_append_of_sublist_right
  exact List.sublist_append_of_sublist_left within

theorem sublist_between (opening closing : BlockToken) {content : List BlockToken}
    {shown : List VisibleToken} (within : shown.Sublist (content.flatMap BlockToken.withText)) :
    shown.Sublist ((enclose opening content closing).flatMap BlockToken.withText) :=
  (List.sublist_cons_self _ _).trans (sublist_enclose opening closing within)

theorem BlockToken.sublist_withText (token : BlockToken) :
    (token.children.map .inline : List VisibleToken).Sublist
      ([token].flatMap BlockToken.withText) := by
  rw [List.flatMap_singleton]
  exact List.sublist_cons_self _ _

theorem CellTokens.visible_sublist (cell : CellTokens) :
    cell.visible.Sublist (cell.tokens.flatMap BlockToken.withText) :=
  sublist_between cell.opening cell.closing cell.inline.sublist_withText

theorem RowTokens.visible_sublist (row : RowTokens) :
    (row.cells.flatMap CellTokens.visible).Sublist (row.tokens.flatMap BlockToken.withText) := by
  apply sublist_between
  rw [List.flatMap_assoc]
  exact List.Sublist.flatMap_right _ fun cell _ => cell.visible_sublist

theorem SectionTokens.visible_sublist (part : SectionTokens) :
    ((part.rows.flatMap RowTokens.cells).flatMap CellTokens.visible).Sublist
      (part.tokens.flatMap BlockToken.withText) := by
  apply sublist_between
  rw [List.flatMap_assoc, List.flatMap_assoc]
  exact List.Sublist.flatMap_right _ fun row _ => row.visible_sublist

theorem TableTokens.visible_sublist (table : TableTokens) :
    (table.cells.flatMap CellTokens.visible).Sublist
      (table.inner.flatMap BlockToken.withText) := by
  rw [cells, List.flatMap_append, List.flatMap_append, inner, List.flatMap_append]
  apply table.head.visible_sublist.append
  rw [List.flatMap_assoc, List.flatMap_assoc, List.flatMap_assoc]
  apply List.Sublist.flatMap_right
  intro part _
  rw [← List.flatMap_assoc]
  exact part.visible_sublist

namespace BlockNode

mutual

theorem shown_sublist (node : BlockNode) :
    (.block node.opening :: node.shown).Sublist (node.tokens.flatMap BlockToken.withText) := by
  cases node with
  | heading level opening inline closing =>
      exact sublist_enclose opening closing inline.sublist_withText
  | paragraph opening inline closing =>
      exact sublist_enclose opening closing inline.sublist_withText
  | leaf role token =>
      rw [tokens, List.flatMap_singleton, BlockToken.withText]
      exact (List.nil_sublist _).cons_cons _
  | list ordered opening content closing =>
      exact sublist_enclose opening closing (List.nil_sublist _)
  | table tokens =>
      exact sublist_enclose tokens.opening tokens.closing tokens.visible_sublist
  | quote opening children closing =>
      exact sublist_enclose opening closing (allVisible_sublist children)
  | unknown opening content closing =>
      exact sublist_enclose opening closing (List.nil_sublist _)

/-- The visible tokens of a forest stand in its stream, in the same order. -/
theorem allVisible_sublist (forest : List BlockNode) :
    (allVisible forest).Sublist ((flatten forest).flatMap BlockToken.withText) := by
  cases forest with
  | nil => exact .slnil
  | cons node forest =>
      rw [allVisible, flatten, List.flatMap_append]
      exact (shown_sublist node).append (allVisible_sublist forest)

end

end BlockNode

/-- A page stops at a node of the kind of the first token that shows and is unknown. -/
theorem BlockNode.kind_stop?_decodedAll (options : CardOptions) (lines : List String)
    {forest : List BlockNode} {count : Nat} (formed : allWellFormed count forest) :
    (stop? (options.card <$> renderBody (decodedAll lines {} forest))).map Unsupported.kind =
      ((allVisible forest).find? fun token => !token.isKnown).map VisibleToken.kind := by
  have kinds := congrArg List.head? (unknownKinds_decodedAll lines {} forest formed)
  rw [PageNode.unknownKinds, VisibleToken.unknownKinds, List.head?_map, List.head?_map,
    List.head?_filter] at kinds
  rwa [stop?_card]

/-! ## What never shows -/

namespace BlockNode

mutual

/-- A tree with nothing inside its lists and its containers without a meaning. -/
def emptied : BlockNode → BlockNode
  | list ordered opening _ closing => list ordered opening [] closing
  | unknown opening _ closing => unknown opening [] closing
  | quote opening children closing => quote opening (allEmptied children) closing
  | node => node

/-- A forest with nothing inside its lists and its containers without a meaning. -/
def allEmptied : List BlockNode → List BlockNode
  | [] => []
  | node :: nodes => node.emptied :: allEmptied nodes

end

theorem allEmptied_eq_map (forest : List BlockNode) : allEmptied forest = forest.map emptied := by
  induction forest with
  | nil => rfl
  | cons node forest induction => rw [allEmptied, induction, List.map_cons]

@[simp]
theorem opening_emptied (node : BlockNode) : node.emptied.opening = node.opening := by
  cases node <;> rfl

mutual

theorem WellFormed.emptied {count : Nat} (node : BlockNode) (formed : node.WellFormed count) :
    node.emptied.WellFormed count := by
  cases node with
  | list ordered opening content closing =>
      obtain ⟨type, encloses, mapped⟩ := formed
      exact ⟨type, { encloses with deeper := by simp }, mapped⟩
  | unknown opening content closing =>
      obtain ⟨opens, strange, encloses, mapped⟩ := formed
      exact ⟨opens, strange, { encloses with deeper := by simp }, mapped⟩
  | quote opening children closing =>
      obtain ⟨type, covered, mapped, closes, others, inside⟩ := formed
      refine ⟨type, covered, mapped, closes, ?_, allWellFormed_emptied children inside⟩
      simpa [allEmptied_eq_map] using others
  | heading level opening inline closing => exact formed
  | paragraph opening inline closing => exact formed
  | leaf role token => exact formed
  | table tokens => exact formed

theorem allWellFormed_emptied {count : Nat} (forest : List BlockNode)
    (formed : allWellFormed count forest) : allWellFormed count (allEmptied forest) := by
  cases forest with
  | nil => trivial
  | cons node forest =>
      exact ⟨WellFormed.emptied node formed.1, allWellFormed_emptied forest formed.2⟩

end

mutual

theorem decoded_emptied (lines : List String) (node : BlockNode) :
    node.emptied.decoded lines = node.decoded lines := by
  cases node with
  | quote opening children closing =>
      rw [emptied, decoded, decoded, decodedAll_emptied]
  | _ => rfl

/-- What stands inside lists and containers without a meaning leaves no trace in the blocks. -/
theorem decodedAll_emptied (lines : List String) (sibling : Sibling) (forest : List BlockNode) :
    decodedAll lines sibling (allEmptied forest) = decodedAll lines sibling forest := by
  cases forest with
  | nil => rfl
  | cons node forest =>
      rw [allEmptied, decodedAll, decodedAll, opening_emptied, decoded_emptied,
        decodedAll_emptied]

end

end BlockNode

/-- Every well-nested stream is read, and its blocks fail to render exactly when the stream shows a
token of an unknown type; the first one in the order of the stream names the failure.  So a stream
that shows standard types only is always rendered, and what stands inside lists and containers
without a meaning never changes anything. -/
theorem Block.renderBody_ofTokens_flatten (options : CardOptions) {lines : List String}
    {forest : List BlockNode} (formed : BlockNode.allWellFormed lines.length forest) :
    ∃ blocks,
      Block.ofTokens [] lines (BlockNode.flatten forest) 0 =
        .ok (blocks, (BlockNode.flatten forest).length) ∧
      (BlockNode.allVisible forest).Sublist
        ((BlockNode.flatten forest).flatMap BlockToken.withText) ∧
      ((∃ cause, options.card <$> renderBody blocks = .error cause) ↔
        ∃ token ∈ BlockNode.allVisible forest, token.isKnown = false) ∧
      (∀ cause, options.card <$> renderBody blocks = .error cause →
        ∃ token, (BlockNode.allVisible forest).find? (fun token => !token.isKnown) = some token ∧
          token.Names cause.kind) ∧
      ((∀ token ∈ BlockNode.allVisible forest, token.isStandard = true) →
        ∃ card, options.card <$> renderBody blocks = .ok card) ∧
      ∃ count,
        Block.ofTokens [] lines (BlockNode.flatten (BlockNode.allEmptied forest)) 0 =
          .ok (blocks, count) := by
  have starts (trees : List BlockNode) :
      ∀ node ∈ trees, node.opening.type ∉ ([] : List String) := by
    simp
  have kinds := BlockNode.kind_stop?_decodedAll options lines formed
  have emptied := Block.ofTokens_stream (BlockNode.allWellFormed_emptied forest formed) (starts _)
  rw [BlockNode.decodedAll_emptied] at emptied
  refine ⟨_, Block.ofTokens_stream formed (starts _), BlockNode.allVisible_sublist forest,
    ?_, ?_, ?_, _, emptied⟩
  · have same := congrArg Option.isSome kinds
    rw [Option.isSome_map, Option.isSome_map] at same
    simp only [← stop?_eq_some, ← Option.isSome_iff_exists, same, List.find?_isSome]
    simp
  · intro cause failed
    rw [stop?_eq_some.mpr failed, Option.map_some, eq_comm, Option.map_eq_some_iff] at kinds
    obtain ⟨token, found, kind⟩ := kinds
    exact ⟨token, found, kind ▸ token.names_kind⟩
  · intro standard
    have known : (BlockNode.allVisible forest).find? (fun token => !token.isKnown) = none := by
      rw [List.find?_eq_none]
      intro token member
      simp [VisibleToken.isKnown_of_isStandard (standard token member)]
    rw [known, Option.map_none, Option.map_eq_none_iff] at kinds
    exact stop?_eq_none.mp kinds

/-- The lines of a list, a quote and a container without a meaning. -/
def strangeLines : List String :=
  ["- a", "> a==", ":::"]

/-- A list around an unknown token, a quote around a paragraph with an unknown mark, and a container
without a meaning. -/
def strangeForest : List BlockNode :=
  [.list false { type := "bullet_list_open", nesting := 1, span := some (0, 1) }
      [{ type := "task_item", level := 1 }] { type := "bullet_list_close", nesting := -1 },
    .quote { type := "blockquote_open", nesting := 1, span := some (1, 2) }
      [.paragraph { type := "paragraph_open", nesting := 1, level := 1, span := some (1, 2) }
        { type := "inline"
          level := 2
          children :=
            [{ type := "text", content := "a" }, { type := "mark_open", markup := "==" }] }
        { type := "paragraph_close", nesting := -1, level := 1 }]
      { type := "blockquote_close", nesting := -1 },
    .unknown { type := "aside_open", nesting := 1, span := some (2, 3) } []
      { type := "aside_close", nesting := -1 }]

theorem strangeForest_wellFormed : BlockNode.allWellFormed strangeLines.length strangeForest := by
  have within {first last : Int} (nonneg : 0 ≤ first) (ordered : first ≤ last) (inside : last ≤ 3) :
      Span.Within strangeLines.length (first, last) :=
    ⟨nonneg, ordered, inside⟩
  have list : Encloses { type := "bullet_list_open", nesting := 1, span := some (0, 1) }
      [{ type := "task_item", level := 1 }] { type := "bullet_list_close", nesting := -1 } :=
    ⟨by simp, rfl, rfl⟩
  have aside : Encloses { type := "aside_open", nesting := 1, span := some (2, 3) } []
      { type := "aside_close", nesting := -1 } :=
    ⟨by simp, rfl, rfl⟩
  simp [strangeForest, BlockNode.allWellFormed, BlockNode.WellFormed, BlockToken.Mapped,
    BlockNode.opening, knownTypes, within, list, aside]

/-- The unknown mark stops the page, and the unknown token inside the list does not. -/
theorem Block.renderBody_ofTokens_flatten_mark :
    ∃ blocks cause,
      Block.ofTokens [] strangeLines (BlockNode.flatten strangeForest) 0 = .ok (blocks, 10) ∧
        CardOptions.card {} <$> renderBody blocks = .error cause ∧ cause.kind = "mark_open" := by
  obtain ⟨blocks, read, -, fails, names, -⟩ :=
    Block.renderBody_ofTokens_flatten {} strangeForest_wellFormed
  have first : (BlockNode.allVisible strangeForest).find? (fun token => !token.isKnown) =
      some (.inline { type := "mark_open", markup := "==" }) := rfl
  have stops := List.find?_isSome.mp (Option.isSome_of_eq_some first)
  obtain ⟨cause, failed⟩ := fails.mpr (by simpa using stops)
  obtain ⟨token, found, named⟩ := names cause failed
  rw [first, Option.some_inj] at found
  subst found
  exact ⟨blocks, cause, read, failed, named.symm⟩

end CardPress
