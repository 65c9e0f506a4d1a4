import CardPress.Proofs.Document.Forest

/-!
# Changing the tokens of a forest

A change of single tokens that keeps their types, levels and lines keeps the shape of a forest: the
changed tokens are again those of a forest, tree by tree.
-/

namespace CardPress

/-- A change of tokens that keeps everything that the shape of a forest depends on. -/
structure KeepsShape (change : BlockToken → BlockToken) : Prop where
  type_eq : ∀ token, (change token).type = token.type
  tag_eq : ∀ token, (change token).tag = token.tag
  nesting_eq : ∀ token, (change token).nesting = token.nesting
  level_eq : ∀ token, (change token).level = token.level
  span_eq : ∀ token, (change token).span = token.span

section changes

variable (change : BlockToken → BlockToken)

theorem map_enclose (opening closing : BlockToken) (content : List BlockToken) :
    (enclose opening content closing).map change =
      enclose (change opening) (content.map change) (change closing) := by
  simp [enclose]

/-! ## Tables -/

/-- The changed tokens of a cell. -/
def CellTokens.map (cell : CellTokens) : CellTokens :=
  ⟨change cell.opening, change cell.inline, change cell.closing⟩

theorem CellTokens.tokens_map (cell : CellTokens) :
    (cell.map change).tokens = cell.tokens.map change :=
  rfl

/-- The changed tokens of a row. -/
def RowTokens.map (row : RowTokens) : RowTokens :=
  ⟨change row.opening, row.cells.map (CellTokens.map change), change row.closing⟩

theorem RowTokens.tokens_map (row : RowTokens) :
    (row.map change).tokens = row.tokens.map change := by
  rw [tokens, tokens, map_enclose, List.map_flatMap]
  simp only [RowTokens.map, List.flatMap_map, CellTokens.tokens_map]

/-- The changed tokens of a head or a body. -/
def SectionTokens.map (part : SectionTokens) : SectionTokens :=
  ⟨change part.opening, part.rows.map (RowTokens.map change), change part.closing⟩

theorem SectionTokens.tokens_map (part : SectionTokens) :
    (part.map change).tokens = part.tokens.map change := by
  rw [tokens, tokens, map_enclose, List.map_flatMap]
  simp only [SectionTokens.map, List.flatMap_map, RowTokens.tokens_map]

/-- The changed tokens of a table. -/
def TableTokens.map (table : TableTokens) : TableTokens :=
  ⟨change table.opening, table.head.map change, table.body.map (SectionTokens.map change),
    change table.closing⟩

theorem TableTokens.tokens_map (table : TableTokens) :
    (table.map change).tokens = table.tokens.map change := by
  rw [tokens, tokens, map_enclose, inner, inner, List.map_append]
  cases body : table.body with
  | none => simp [TableTokens.map, body, SectionTokens.tokens_map]
  | some part => simp [TableTokens.map, body, SectionTokens.tokens_map]

/-! ## Forests -/

namespace BlockNode

mutual

/-- The tree of the changed tokens. -/
def map : BlockNode → BlockNode
  | heading level opening inline closing =>
      heading level (change opening) (change inline) (change closing)
  | paragraph opening inline closing =>
      paragraph (change opening) (change inline) (change closing)
  | leaf role token => leaf role (change token)
  | list ordered opening content closing =>
      list ordered (change opening) (content.map change) (change closing)
  | table tokens => table (tokens.map change)
  | quote opening children closing =>
      quote (change opening) (mapAll children) (change closing)
  | unknown opening content closing =>
      unknown (change opening) (content.map change) (change closing)

/-- The forest of the changed tokens. -/
def mapAll : List BlockNode → List BlockNode
  | [] => []
  | node :: nodes => node.map :: mapAll nodes

end

theorem opening_map (node : BlockNode) : (node.map change).opening = change node.opening := by
  cases node <;> rfl

theorem mapAll_eq_map (forest : List BlockNode) :
    mapAll change forest = forest.map (map change) := by
  induction forest with
  | nil => rfl
  | cons node forest induction => rw [mapAll, induction, List.map_cons]

mutual

theorem tokens_map (node : BlockNode) : (node.map change).tokens = node.tokens.map change := by
  cases node with
  | list ordered opening content closing => exact (map_enclose change opening closing content).symm
  | table tokens => exact tokens.tokens_map change
  | quote opening children closing =>
      rw [map, tokens, tokens, map_enclose, flatten_mapAll children]
  | unknown opening content closing =>
      exact (map_enclose change opening closing content).symm
  | _ => rfl

theorem flatten_mapAll (forest : List BlockNode) :
    flatten (mapAll change forest) = (flatten forest).map change := by
  cases forest with
  | nil => rfl
  | cons node forest =>
      rw [mapAll, flatten, flatten, List.map_append, tokens_map node, flatten_mapAll forest]

end

end BlockNode

section shape

variable {change} (keeps : KeepsShape change)

include keeps

theorem Encloses.map {opening closing : BlockToken} {content : List BlockToken}
    (encloses : Encloses opening content closing) :
    Encloses (change opening) (content.map change) (change closing) := by
  refine ⟨fun token member => ?_, ?_, ?_⟩
  · obtain ⟨before, inside, rfl⟩ := List.mem_map.mp member
    rw [keeps.level_eq, keeps.level_eq]
    exact encloses.deeper before inside
  · rw [keeps.nesting_eq]
    exact encloses.closes
  · rw [keeps.level_eq, keeps.level_eq]
    exact encloses.level_eq

theorem BlockToken.Mapped.map {count : Nat} {token : BlockToken} (mapped : token.Mapped count) :
    (change token).Mapped count := by
  unfold BlockToken.Mapped
  rw [keeps.span_eq]
  exact mapped

theorem LeafRole.Admits.map {role : LeafRole} {token : BlockToken} (admits : role.Admits token) :
    role.Admits (change token) := by
  cases role <;> simpa only [LeafRole.Admits, keeps.type_eq, keeps.nesting_eq] using admits

theorem RowTokens.WellFormed.map {cellType : String} {row : RowTokens}
    (formed : row.WellFormed cellType) : (row.map change).WellFormed cellType := by
  refine ⟨(keeps.type_eq _).trans formed.opens, fun cell member => ?_,
    (keeps.type_eq _).trans formed.closes⟩
  obtain ⟨before, inside, rfl⟩ := List.mem_map.mp member
  exact (keeps.type_eq _).trans (formed.cells before inside)

theorem SectionTokens.IsHead.map {part : SectionTokens} (formed : part.IsHead) :
    (part.map change).IsHead := by
  refine ⟨(keeps.type_eq _).trans formed.opens, fun row member => ?_,
    (keeps.type_eq _).trans formed.closes⟩
  obtain ⟨before, inside, rfl⟩ := List.mem_map.mp member
  exact (formed.rows before inside).map keeps

theorem SectionTokens.IsBody.map {part : SectionTokens} (formed : part.IsBody) :
    (part.map change).IsBody := by
  refine ⟨(keeps.type_eq _).trans formed.opens, fun row member => ?_,
    (keeps.type_eq _).trans formed.closes⟩
  obtain ⟨before, inside, rfl⟩ := List.mem_map.mp member
  exact (formed.rows before inside).map keeps

theorem TableTokens.WellFormed.map {table : TableTokens} (formed : table.WellFormed) :
    (table.map change).WellFormed := by
  refine ⟨(keeps.type_eq _).trans formed.opens, formed.head.map keeps, fun part member => ?_,
    (keeps.type_eq _).trans formed.closes⟩
  obtain ⟨before, inside, rfl⟩ := Option.map_eq_some_iff.mp member
  exact (formed.body before inside).map keeps

end shape

namespace BlockNode

variable {change}

mutual

/-- A changed tree is as well formed as it was. -/
theorem WellFormed.map (keeps : KeepsShape change) {count : Nat} (node : BlockNode)
    (formed : node.WellFormed count) : (node.map change).WellFormed count := by
  cases node with
  | heading level opening inline closing =>
      obtain ⟨type, tag, mapped⟩ := formed
      exact ⟨(keeps.type_eq _).trans type, (keeps.tag_eq _).trans tag, mapped.map keeps⟩
  | paragraph opening inline closing =>
      obtain ⟨type, mapped⟩ := formed
      exact ⟨(keeps.type_eq _).trans type, mapped.map keeps⟩
  | leaf role token => exact ⟨formed.1.map keeps, formed.2.map keeps⟩
  | list ordered opening content closing =>
      obtain ⟨type, encloses, mapped⟩ := formed
      exact ⟨(keeps.type_eq _).trans type, encloses.map keeps, mapped.map keeps⟩
  | table tokens => exact ⟨formed.1.map keeps, formed.2.map keeps⟩
  | quote opening children closing =>
      obtain ⟨type, covered, mapped, closes, apart, inside⟩ := formed
      refine ⟨(keeps.type_eq _).trans type, by rwa [keeps.span_eq], mapped.map keeps,
        (keeps.type_eq _).trans closes, fun child member => ?_,
        WellFormed.mapAll keeps children inside⟩
      rw [mapAll_eq_map] at member
      obtain ⟨before, among, rfl⟩ := List.mem_map.mp member
      rw [opening_map, keeps.type_eq]
      exact apart before among
  | unknown opening content closing =>
      obtain ⟨opens, strange, encloses, mapped⟩ := formed
      exact ⟨(keeps.nesting_eq _).trans opens, by rwa [keeps.type_eq], encloses.map keeps,
        mapped.map keeps⟩

theorem WellFormed.mapAll (keeps : KeepsShape change) {count : Nat} (forest : List BlockNode)
    (formed : allWellFormed count forest) : allWellFormed count (mapAll change forest) := by
  cases forest with
  | nil => trivial
  | cons node forest =>
      exact ⟨WellFormed.map keeps node formed.1, WellFormed.mapAll keeps forest formed.2⟩

end

end BlockNode

end changes
end CardPress
