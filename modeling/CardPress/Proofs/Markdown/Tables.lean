import CardPress.Proofs.Markdown.Extent
import CardPress.Proofs.Markdown.Forests

/-!
# Tables of Markdown

The lines of a table become the tokens of a head and of a body, row after row.
-/

namespace CardPress
namespace Markdown
namespace Region

/-! ## Rows -/

/-- The cells of a row, as tokens. -/
def rowCells (tag : String) (level index : Nat) (cells : List (List Char)) : List CellTokens :=
  cells.map fun cell =>
    { opening := { openToken tag tag level index (index + 1) with span := none }
      inline := textToken (level + 1) index (index + 1) (trimWhite cell)
      closing := closeToken tag tag level }

/-- A row, as tokens. -/
def row (tag : String) (level index : Nat) (cells : List (List Char)) : RowTokens :=
  { opening := openToken "tr" "tr" level index (index + 1)
    cells := rowCells tag (level + 1) index cells
    closing := closeToken "tr" "tr" level }

section row

variable (tag : String) (level index : Nat) (cells : List (List Char))

theorem tokens_row :
    (row tag level index cells).tokens =
      enclose "tr" "tr" level index (index + 1) (cellTokens tag (level + 1) index cells) := by
  have inner : (rowCells tag (level + 1) index cells).flatMap CellTokens.tokens =
      cellTokens tag (level + 1) index cells := List.flatMap_map _ _ _
  rw [enclose, ← inner]
  rfl

theorem row_wellFormed : (row tag level index cells).WellFormed (tag ++ "_open") := by
  have opens : "tr" ++ "_open" = "tr_open" := by decide
  have closes : "tr" ++ "_close" = "tr_close" := by decide
  refine ⟨opens, fun cell member => ?_, closes⟩
  obtain ⟨text, -, rfl⟩ := List.mem_map.mp member
  rfl

theorem deep_cellTokens : Deep level (cellTokens tag level index cells) := by
  intro token member
  obtain ⟨cell, -, member⟩ := List.mem_flatMap.mp member
  simp only [List.mem_cons, List.not_mem_nil, or_false] at member
  rcases member with rfl | rfl | rfl
  · exact Int.le_refl _
  · exact Int.ofNat_le.mpr (Nat.le_succ level)
  · exact Int.le_refl _

theorem deep_row : Deep level (row tag level index cells).tokens := by
  rw [tokens_row]
  exact ((deep_cellTokens tag (level + 1) index cells).mono (Nat.le_succ level)).enclose

end row

/-- The rows behind the head of a table are well formed, two levels deeper than the table. -/
theorem rows_wellFormed (region : Region) (columns limit : Nat) (added : Int) (index : Nat) :
    ∃ rows : List RowTokens,
      rows.flatMap RowTokens.tokens = (region.rows columns limit added index).tokens ∧
        (∀ row ∈ rows, row.WellFormed "td_open") ∧
        Deep (region.level + 2) (rows.flatMap RowTokens.tokens) := by
  fun_induction region.rows columns limit added index with
  | case2 added index inside content cells added' goesOn rest cells' induction =>
      obtain ⟨rows, tokens, formed, deep⟩ := induction
      let first := row "td" (region.level + 2) index (fitCells columns cells)
      have type : "td" ++ "_open" = "td_open" := by decide
      have firstFormed : first.WellFormed "td_open" :=
        type ▸ row_wellFormed "td" (region.level + 2) index (fitCells columns cells)
      refine ⟨first :: rows, ?_, List.forall_mem_cons.mpr ⟨firstFormed, formed⟩, ?_⟩
      · rw [List.flatMap_cons, tokens, tokens_row]
      · rw [List.flatMap_cons]
        exact (deep_row "td" (region.level + 2) index (fitCells columns cells)).append deep
  | _ => exact ⟨[], rfl, by simp, by simp [Deep]⟩

/-! ## Heads and bodies -/

/-- The head of a table, as tokens. -/
def head (level start : Nat) (cells : List (List Char)) : SectionTokens :=
  { opening := openToken "thead" "thead" level start (start + 1)
    rows := [row "th" (level + 1) start cells]
    closing := closeToken "thead" "thead" level }

/-- The body of a table, as tokens. -/
def body (level start stop : Nat) (rows : List RowTokens) : SectionTokens :=
  { opening := openToken "tbody" "tbody" level start stop
    rows
    closing := closeToken "tbody" "tbody" level }

section sections

variable (level start : Nat) (cells : List (List Char))

theorem tokens_head :
    (head level start cells).tokens =
      enclose "thead" "thead" level start (start + 1)
        (enclose "tr" "tr" (level + 1) start (start + 1)
          (cellTokens "th" (level + 2) start cells)) := by
  have inner : [row "th" (level + 1) start cells].flatMap RowTokens.tokens =
      enclose "tr" "tr" (level + 1) start (start + 1)
        (cellTokens "th" (level + 2) start cells) := by
    rw [List.flatMap_singleton, tokens_row]
  rw [enclose, ← inner]
  rfl

theorem head_isHead : (head level start cells).IsHead := by
  have opens : "thead" ++ "_open" = "thead_open" := by decide
  have closes : "thead" ++ "_close" = "thead_close" := by decide
  have type : "th" ++ "_open" = "th_open" := by decide
  refine ⟨opens, fun first member => ?_, closes⟩
  rw [List.mem_singleton.mp member, ← type]
  exact row_wellFormed "th" (level + 1) start cells

theorem body_isBody (stop : Nat) {rows : List RowTokens}
    (formed : ∀ row ∈ rows, row.WellFormed "td_open") : (body level start stop rows).IsBody := by
  have opens : "tbody" ++ "_open" = "tbody_open" := by decide
  have closes : "tbody" ++ "_close" = "tbody_close" := by decide
  exact ⟨opens, formed, closes⟩

end sections

/-! ## Whole tables -/

/-- A table, as tokens; a table without rows has no body. -/
def tableTokens (level start stop : Nat) (cells : List (List Char)) (rows : List RowTokens) :
    TableTokens :=
  { opening := openToken "table" "table" level start stop
    head := head (level + 1) start cells
    body :=
      if (rows.flatMap RowTokens.tokens).isEmpty then none
      else some (body (level + 1) (start + 2) stop rows)
    closing := closeToken "table" "table" level }

section tables

variable {level start stop : Nat} {cells : List (List Char)} {rows : List RowTokens}

theorem inner_tableTokens :
    (tableTokens level start stop cells rows).inner =
      enclose "thead" "thead" (level + 1) start (start + 1)
          (enclose "tr" "tr" (level + 2) start (start + 1)
            (cellTokens "th" (level + 3) start cells)) ++
        if (rows.flatMap RowTokens.tokens).isEmpty then []
        else enclose "tbody" "tbody" (level + 1) (start + 2) stop
          (rows.flatMap RowTokens.tokens) := by
  rw [TableTokens.inner, ← tokens_head]
  congr 1
  by_cases empty : (rows.flatMap RowTokens.tokens).isEmpty
  · simp [tableTokens, empty]
  · rw [if_neg empty]
    simp only [tableTokens, if_neg empty, Option.toList_some, List.flatMap_singleton]
    rfl

theorem tableTokens_wellFormed (formed : ∀ row ∈ rows, row.WellFormed "td_open") :
    (tableTokens level start stop cells rows).WellFormed := by
  have opens : "table" ++ "_open" = "table_open" := by decide
  have closes : "table" ++ "_close" = "table_close" := by decide
  refine ⟨opens, head_isHead _ _ _, fun part member => ?_, closes⟩
  have found : some (body (level + 1) (start + 2) stop rows) = some part :=
    (Option.ite_none_left_eq_some.mp member).2
  cases found
  exact body_isBody _ _ _ formed

theorem deep_tableTokens (deep : Deep (level + 2) (rows.flatMap RowTokens.tokens)) :
    Deep level (tableTokens level start stop cells rows).tokens := by
  have header : Deep (level + 1) (enclose "thead" "thead" (level + 1) start (start + 1)
      (row "th" (level + 2) start cells).tokens) :=
    ((deep_row "th" (level + 2) start cells).mono (Nat.le_succ _)).enclose
  have rest : Deep (level + 1) (if (rows.flatMap RowTokens.tokens).isEmpty then []
      else enclose "tbody" "tbody" (level + 1) (start + 2) stop
        (rows.flatMap RowTokens.tokens)) := by
    split
    · simp [Deep]
    · exact (deep.mono (Nat.le_succ _)).enclose
  rw [tokens_row] at header
  have inner := (header.append rest).mono (Nat.le_succ level)
  rw [← inner_tableTokens] at inner
  exact inner.enclose

end tables

/-- A table with its rows. -/
theorem table?_covers {count start limit : Nat} {region : Region} {reading : Reading}
    (inside : limit ≤ count) (found : region.table? start limit = some reading) :
    reading.Covers count region.level start := by
  obtain ⟨cells, heads, rfl⟩ := Option.map_eq_some_iff.mp found
  have first := region.tableHead?_bounds heads
  have bounds := region.rows_bounds cells.length limit 0 (start + 2)
  obtain ⟨rows, tokens, formed, deep⟩ := region.rows_wellFormed cells.length limit 0 (start + 2)
  generalize region.rows cells.length limit 0 (start + 2) = read at bounds tokens
  obtain ⟨_, next⟩ := read
  change rows.flatMap RowTokens.tokens = _ at tokens
  subst tokens
  let table := tableTokens region.level start next cells rows
  have forward : start ≤ next := by
    change start + 2 ≤ next ∧ _ at bounds
    omega
  have within : next ≤ count := by
    change _ ∧ next ≤ max (start + 2) limit at bounds
    omega
  have mapped : table.opening.Mapped count := BlockToken.mapped_of_span rfl forward within
  have tree : (BlockNode.table table).WellFormed count := ⟨tableTokens_wellFormed formed, mapped⟩
  have nested : Nested count region.level table.tokens :=
    .tree tree trivial (deep_tableTokens deep)
  refine ⟨forward, within, ?_⟩
  rw [TableTokens.tokens, inner_tableTokens] at nested
  exact nested

end Region

end Markdown
end CardPress
