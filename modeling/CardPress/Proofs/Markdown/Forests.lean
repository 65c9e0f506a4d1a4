import CardPress.Markdown.Blocks
import CardPress.Proofs.Document.Changes

/-!
# Forests of Markdown

A reading covers lines of a text with the tokens of a forest, on the level of the containers around
them.  Each kind of block gives such a reading when its parts do.
-/

namespace CardPress

/-! ## Trees of Markdown -/

namespace BlockNode

/-- A tree that Markdown may have: a block of a known type, or front matter. -/
def IsStandard : BlockNode → Prop
  | leaf .unknown token => token.type = "front_matter"
  | unknown .. => False
  | _ => True

theorem IsStandard.type_mem {node : BlockNode} (standard : node.IsStandard) {count : Nat}
    (formed : node.WellFormed count) : node.opening.type ∈ "front_matter" :: knownTypes := by
  cases node with
  | heading level opening inline closing => simp [BlockNode.opening, knownTypes, formed.1]
  | paragraph opening inline closing => simp [BlockNode.opening, knownTypes, formed.1]
  | leaf role token =>
      have admits := formed.1
      cases role with
      | code =>
          rcases admits with type | type
          · simp [BlockNode.opening, knownTypes, type]
          · simp [BlockNode.opening, knownTypes, type]
      | unknown =>
          have type : token.type = "front_matter" := standard
          simp [BlockNode.opening, type]
      | _ =>
          rw [LeafRole.Admits] at admits
          simp [BlockNode.opening, knownTypes, admits]
  | list ordered opening content closing =>
      cases ordered <;> simp [BlockNode.opening, knownTypes, formed.1]
  | table tokens => simp [BlockNode.opening, knownTypes, formed.1.opens]
  | quote opening children closing => simp [BlockNode.opening, knownTypes, formed.1]
  | unknown opening content closing => exact standard.elim

theorem IsStandard.opening_ne {node : BlockNode} (standard : node.IsStandard) {count : Nat}
    (formed : node.WellFormed count) : node.opening.type ≠ "blockquote_close" := by
  intro same
  have member := standard.type_mem formed
  rw [same] at member
  revert member
  decide

theorem head?_tokens (node : BlockNode) : node.tokens.head? = some node.opening := by
  cases node <;> rfl

/-- Front matter is a token that stands alone. -/
theorem IsStandard.tokens_eq_singleton {node : BlockNode} (standard : node.IsStandard) {count : Nat}
    (formed : node.WellFormed count) (type : node.opening.type = "front_matter") :
    node.tokens = [node.opening] := by
  cases node with
  | leaf role token => rfl
  | heading level opening inline closing => exact absurd (formed.1.symm.trans type) (by decide)
  | paragraph opening inline closing => exact absurd (formed.1.symm.trans type) (by decide)
  | list ordered opening content closing =>
      cases ordered <;> exact absurd (formed.1.symm.trans type) (by decide)
  | table tokens => exact absurd (formed.1.opens.symm.trans type) (by decide)
  | quote opening children closing => exact absurd (formed.1.symm.trans type) (by decide)
  | unknown opening content closing => exact standard.elim

theorem IsStandard.map {node : BlockNode} (standard : node.IsStandard)
    {change : BlockToken → BlockToken} (keeps : KeepsShape change) :
    (node.map change).IsStandard := by
  cases node with
  | leaf role token =>
      cases role with
      | unknown => exact (keeps.type_eq token).trans standard
      | _ => trivial
  | unknown opening content closing => exact standard.elim
  | _ => trivial

theorem flatten_append (front back : List BlockNode) :
    flatten (front ++ back) = flatten front ++ flatten back := by
  induction front with
  | nil => rfl
  | cons node front induction =>
      rw [List.cons_append, flatten, flatten, induction, List.append_assoc]

theorem allWellFormed_iff {count : Nat} {forest : List BlockNode} :
    allWellFormed count forest ↔ ∀ node ∈ forest, node.WellFormed count := by
  induction forest with
  | nil => simp [allWellFormed]
  | cons node forest induction => rw [allWellFormed, induction, List.forall_mem_cons]

end BlockNode

/-- A token that covers lines of the page. -/
theorem BlockToken.mapped_of_span {count start stop : Nat} {token : BlockToken}
    (span : token.span = some ((start : Int), (stop : Int))) (forward : start ≤ stop)
    (inside : stop ≤ count) : token.Mapped count := by
  intro covered member
  rw [span] at member
  cases member
  exact ⟨Int.natCast_nonneg start, Int.ofNat_le.mpr forward, Int.ofNat_le.mpr inside⟩

namespace Markdown

/-! ## Forests on a level -/

/-- Tokens with at least `level` containers around each. -/
def Deep (level : Nat) (tokens : List BlockToken) : Prop :=
  ∀ token ∈ tokens, (level : Int) ≤ token.level

namespace Deep

variable {level : Nat}

theorem mono {lower : Nat} {tokens : List BlockToken} (deep : Deep level tokens)
    (less : lower ≤ level) : Deep lower tokens :=
  fun token member => Int.le_trans (Int.ofNat_le.mpr less) (deep token member)

theorem append {first second : List BlockToken} (front : Deep level first)
    (back : Deep level second) : Deep level (first ++ second) :=
  List.forall_mem_append.mpr ⟨front, back⟩

theorem enclose {inner : List BlockToken} (deep : Deep level inner) {type tag : String}
    {start stop : Nat} : Deep level (Markdown.enclose type tag level start stop inner) := by
  have closing : Deep level [closeToken type tag level] := by simp [Deep, closeToken]
  exact List.forall_mem_cons.mpr ⟨Int.le_refl _, deep.append closing⟩

theorem textBlock {type tag : String} {start stop textStop : Nat} {content : List Char} :
    Deep level (Markdown.textBlock type tag level start stop textStop content) := by
  have text : Deep (level + 1) [textToken (level + 1) start textStop content] := by
    simp [Deep, textToken]
  exact (text.mono (Nat.le_succ level)).enclose

end Deep

/-- The tokens of a forest over `count` lines, each with at least `level` containers around it. -/
def Nested (count level : Nat) (tokens : List BlockToken) : Prop :=
  ∃ forest, BlockNode.flatten forest = tokens ∧ BlockNode.allWellFormed count forest ∧
    (∀ node ∈ forest, node.IsStandard) ∧ Deep level tokens

namespace Nested

variable {count level : Nat}

theorem nil : Nested count level [] :=
  ⟨[], rfl, trivial, by simp, by simp [Deep]⟩

theorem append {first second : List BlockToken} (front : Nested count level first)
    (back : Nested count level second) : Nested count level (first ++ second) := by
  obtain ⟨trees, rfl, formed, standard, deep⟩ := front
  obtain ⟨others, rfl, formed', standard', deep'⟩ := back
  refine ⟨trees ++ others, BlockNode.flatten_append trees others, ?_, ?_, ?_⟩
  · rw [BlockNode.allWellFormed_iff] at formed formed' ⊢
    exact List.forall_mem_append.mpr ⟨formed, formed'⟩
  · exact List.forall_mem_append.mpr ⟨standard, standard'⟩
  · exact deep.append deep'

/-- The tokens of one tree. -/
theorem tree {node : BlockNode} (formed : node.WellFormed count) (standard : node.IsStandard)
    (deep : Deep level node.tokens) : Nested count level node.tokens :=
  ⟨[node], by simp [BlockNode.flatten], ⟨formed, trivial⟩, by simpa using standard, deep⟩

end Nested

/-- What has been read from a line on: a forest, and a line behind it within the text. -/
structure Reading.Covers (count level start : Nat) (reading : Reading) : Prop where
  start_le : start ≤ reading.next
  next_le : reading.next ≤ count
  nested : Nested count level reading.tokens

/-! ## Blocks without blocks inside -/

namespace Reading.Covers

section blocks

variable {count level start next : Nat} (forward : start ≤ next) (inside : next ≤ count)

include forward inside

/-- Lines that nothing is read from. -/
theorem nothing : Covers count level start { tokens := [], next } :=
  ⟨forward, inside, .nil⟩

/-- A token that stands alone. -/
theorem leaf (role : LeafRole) {token : BlockToken} (admits : role.Admits token)
    (standard : (BlockNode.leaf role token).IsStandard) (depth : token.level = level)
    (span : token.span = some ((start : Int), (next : Int))) :
    Covers count level start { tokens := [token], next } := by
  have mapped : token.Mapped count := BlockToken.mapped_of_span span forward inside
  have formed : (BlockNode.leaf role token).WellFormed count := ⟨admits, mapped⟩
  have deep : Deep level [token] := by simp [Deep, depth]
  exact ⟨forward, inside, .tree formed standard deep⟩

/-- A heading of one of the six levels. -/
theorem heading {depth : Nat} (low : 1 ≤ depth) (high : depth ≤ 6) (textStop : Nat)
    (content : List Char) :
    Covers count level start
      { tokens := textBlock "heading" (Region.headingTag depth) level start next textStop content
        next } := by
  let opening := openToken "heading" (Region.headingTag depth) level start next
  let node := BlockNode.heading ⟨depth - 1, by omega⟩ opening
    (textToken (level + 1) start textStop content)
    (closeToken "heading" (Region.headingTag depth) level)
  have tag : opening.tag = "h" ++ toString (depth - 1 + 1) := by
    rw [Nat.sub_add_cancel low]
    rfl
  have mapped : opening.Mapped count := BlockToken.mapped_of_span rfl forward inside
  have opens : "heading" ++ "_open" = "heading_open" := by decide
  have formed : node.WellFormed count := ⟨opens, tag, mapped⟩
  exact ⟨forward, inside, .tree formed trivial .textBlock⟩

theorem paragraph (textStop : Nat) (content : List Char) :
    Covers count level start
      { tokens := textBlock "paragraph" "p" level start next textStop content
        next } := by
  let opening := openToken "paragraph" "p" level start next
  let node := BlockNode.paragraph opening (textToken (level + 1) start textStop content)
    (closeToken "paragraph" "p" level)
  have mapped : opening.Mapped count := BlockToken.mapped_of_span rfl forward inside
  have opens : "paragraph" ++ "_open" = "paragraph_open" := by decide
  have formed : node.WellFormed count := ⟨opens, mapped⟩
  exact ⟨forward, inside, .tree formed trivial .textBlock⟩

/-- A list around any tokens that lie deeper. -/
theorem list (ordered : Bool) (tag : String) {tokens : List BlockToken}
    (deep : Deep (level + 1) tokens) :
    Covers count level start
      { tokens := enclose (if ordered then "ordered_list" else "bullet_list") tag level start next
          tokens
        next } := by
  let type := if ordered then "ordered_list" else "bullet_list"
  let opening := openToken type tag level start next
  let node := BlockNode.list ordered opening tokens (closeToken type tag level)
  have opens : opening.type = if ordered then "ordered_list_open" else "bullet_list_open" := by
    cases ordered <;> rfl
  have mapped : opening.Mapped count := BlockToken.mapped_of_span rfl forward inside
  have formed : node.WellFormed count := ⟨opens, ⟨deep, rfl, rfl⟩, mapped⟩
  exact ⟨forward, inside, .tree formed trivial (deep.mono (Nat.le_succ level)).enclose⟩

/-- A quote around a forest that lies deeper. -/
theorem quote {tokens : List BlockToken} (nested : Nested count (level + 1) tokens) :
    Covers count level start
      { tokens := enclose "blockquote" "blockquote" level start next tokens
        next } := by
  obtain ⟨forest, rfl, formed, standard, deep⟩ := nested
  let opening := openToken "blockquote" "blockquote" level start next
  let node := BlockNode.quote opening forest (closeToken "blockquote" "blockquote" level)
  have mapped : opening.Mapped count := BlockToken.mapped_of_span rfl forward inside
  have apart : ∀ child ∈ forest, child.opening.type ≠ "blockquote_close" := by
    intro child member
    exact (standard child member).opening_ne (BlockNode.allWellFormed_iff.mp formed child member)
  have opens : "blockquote" ++ "_open" = "blockquote_open" := by decide
  have closes : "blockquote" ++ "_close" = "blockquote_close" := by decide
  have tree : node.WellFormed count := ⟨opens, rfl, mapped, closes, apart, formed⟩
  exact ⟨forward, inside, .tree tree trivial (deep.mono (Nat.le_succ level)).enclose⟩

end blocks

end Reading.Covers

end Markdown
end CardPress
