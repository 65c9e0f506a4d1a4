import CardPress.Proofs.Document.Decode

/-!
# Groups of tokens

A container is written as a group: an opening token, the tokens inside it, and the token that closes
it.  The closing token is searched for by its level alone.  The central theorem says that the search
finds the token that closes the very group that was opened, because the levels of all tokens inside
a group are greater than its own.
-/

namespace CardPress

/-! ## Balanced tokens and their levels -/

/-- Tokens in which every group that is opened is closed again, whatever the types of its tokens. -/
inductive BalancedTokens : List BlockToken → Prop where
  | nil : BalancedTokens []
  /-- A token that stands alone. -/
  | alone {token : BlockToken} {rest : List BlockToken} (single : token.nesting = 0)
      (later : BalancedTokens rest) : BalancedTokens (token :: rest)
  /-- A group with balanced tokens inside it. -/
  | group {opening closing : BlockToken} {content rest : List BlockToken}
      (opens : opening.nesting = 1) (inside : BalancedTokens content)
      (closes : closing.nesting = -1) (later : BalancedTokens rest) :
      BalancedTokens (enclose opening content closing ++ rest)

/-- The level that a token is recorded on while the count of open groups stands at a level: a
closing token lowers the count before it is recorded. -/
def BlockToken.recordedLevel (level : Int) (token : BlockToken) : Int :=
  if token.nesting < 0 then level - 1 else level

/-- Tokens that are recorded one after the other while the count of open groups goes on from a
level; an opening token raises the count after it has been recorded. -/
def RecordedFrom (level : Int) : List BlockToken → Prop
  | [] => True
  | token :: rest =>
      token.level = token.recordedLevel level ∧
        RecordedFrom
          (if 0 < token.nesting then token.recordedLevel level + 1 else token.recordedLevel level)
          rest

section recorded

variable {level : Int} {token : BlockToken} {rest : List BlockToken}

theorem recordedFrom_alone (single : token.nesting = 0) :
    RecordedFrom level (token :: rest) ↔ token.level = level ∧ RecordedFrom level rest := by
  simp [RecordedFrom, BlockToken.recordedLevel, single]

theorem recordedFrom_opening (opens : token.nesting = 1) :
    RecordedFrom level (token :: rest) ↔ token.level = level ∧ RecordedFrom (level + 1) rest := by
  simp [RecordedFrom, BlockToken.recordedLevel, opens]

theorem recordedFrom_closing (closes : token.nesting = -1) :
    RecordedFrom (level + 1) (token :: rest) ↔ token.level = level ∧ RecordedFrom level rest := by
  simp [RecordedFrom, BlockToken.recordedLevel, closes]

end recorded

/-- Balanced tokens lie on the level that they are recorded from or deeper, and behind them the
count is back on this level. -/
theorem BalancedTokens.recorded {tokens : List BlockToken} (balanced : BalancedTokens tokens)
    {level : Int} {rest : List BlockToken} (recorded : RecordedFrom level (tokens ++ rest)) :
    (∀ token ∈ tokens, level ≤ token.level) ∧ RecordedFrom level rest := by
  induction balanced generalizing level rest with
  | nil => exact ⟨by simp, recorded⟩
  | alone single later induction =>
      rw [List.cons_append, recordedFrom_alone single] at recorded
      obtain ⟨here, behind⟩ := recorded
      obtain ⟨others, back⟩ := induction behind
      exact ⟨List.forall_mem_cons.mpr ⟨by omega, others⟩, back⟩
  | group opens inside closes later inner outer =>
      rw [List.append_assoc, enclose_append, recordedFrom_opening opens] at recorded
      obtain ⟨first, recorded⟩ := recorded
      -- Inside the group the count stands one level deeper, and the closing token takes it back.
      obtain ⟨deeper, recorded⟩ := inner recorded
      obtain ⟨last, behind⟩ := (recordedFrom_closing closes).mp recorded
      obtain ⟨others, back⟩ := outer behind
      refine ⟨fun token member => ?_, back⟩
      rw [enclose_append, List.mem_cons, List.mem_append, List.mem_cons] at member
      obtain rfl | within | rfl | member := member
      · omega
      · have below := deeper token within
        omega
      · omega
      · exact others token member

/-- A recorded group encloses its content: the tokens inside it lie deeper than the two around. -/
theorem Encloses.of_recorded {level : Int} {opening closing : BlockToken}
    {content : List BlockToken} (opens : opening.nesting = 1) (inside : BalancedTokens content)
    (closes : closing.nesting = -1)
    (recorded : RecordedFrom level (enclose opening content closing)) :
    Encloses opening content closing := by
  rw [enclose, List.cons_append, recordedFrom_opening opens] at recorded
  obtain ⟨first, recorded⟩ := recorded
  obtain ⟨deeper, recorded⟩ := inside.recorded recorded
  obtain ⟨last, -⟩ := (recordedFrom_closing closes).mp recorded
  constructor
  case deeper =>
    intro token member
    have below := deeper token member
    omega
  case closes => exact closes
  case level_eq => rw [first, last]

/-! ## Searching for the closing token -/

/-- The search from the token that opens a recorded group ends at the token that closes this group,
whatever groups are inside it, in front of it or behind it, of its own or of other types.  The index
of the opening token may count from either end of the tokens; that of the closing one counts from
the same end. -/
theorem closeIndex_group {level : Int} {before content after tokens : List BlockToken}
    {opening closing : BlockToken} {index : Int} (opens : opening.nesting = 1)
    (inside : BalancedTokens content) (closes : closing.nesting = -1)
    (recorded : RecordedFrom level (enclose opening content closing))
    (parts : tokens = before ++ (enclose opening content closing ++ after))
    (stands : Text.position? tokens.length index = some before.length) :
    closeIndex tokens index = .ok (index + (content.length + 1 : Nat)) ∧
      Text.at? tokens (index + (content.length + 1 : Nat)) = some closing := by
  have encloses := Encloses.of_recorded opens inside closes recorded
  obtain ⟨again, behind⟩ := tokensFrom?_of_position? stands
  have front : tokens.drop before.length ++ again =
      opening :: (content ++ closing :: (after ++ again)) := by
    rw [parts, List.drop_left, List.append_assoc, enclose_append]
  rw [front] at behind
  constructor
  · rw [closeIndex_eq behind, closeDistance_eq encloses]
  · have closed := tokensFrom?_add behind (content.length + 1)
    rw [List.drop_succ_cons, List.drop_left] at closed
    exact (head?_of_tokensFrom? closed).symm

/-- An item with a list and a token that stands alone. -/
def itemGroup : List BlockToken :=
  enclose { type := "list_item_open", nesting := 1, level := 2 }
    (enclose { type := "bullet_list_open", nesting := 1, level := 3 } []
        { type := "bullet_list_close", nesting := -1, level := 3 } ++
      [{ type := "fence", level := 3 }])
    { type := "list_item_close", nesting := -1, level := 2 }

theorem itemGroup_balanced : BalancedTokens itemGroup := by
  have list : BalancedTokens
      (enclose { type := "bullet_list_open", nesting := 1, level := 3 } []
          { type := "bullet_list_close", nesting := -1, level := 3 } ++
        [{ type := "fence", level := 3 }]) :=
    .group rfl .nil rfl (.alone rfl .nil)
  have item : BalancedTokens (itemGroup ++ []) := .group rfl list rfl .nil
  rwa [List.append_nil] at item

/-- A list around the item, behind a stray closing token and in front of another list, all of them
on one level. -/
def listStream : List BlockToken :=
  [{ type := "list_item_close", nesting := -1, level := 1 }] ++
    (enclose { type := "bullet_list_open", nesting := 1, level := 1 } itemGroup
        { type := "bullet_list_close", nesting := -1, level := 1 } ++
      [{ type := "bullet_list_open", nesting := 1, level := 1 },
        { type := "bullet_list_close", nesting := -1, level := 1 }])

/-- The list around the item ends behind the item, counted from the front as well as from the
back. -/
theorem closeIndex_group_list :
    closeIndex listStream 1 = .ok 7 ∧ closeIndex listStream (-9) = .ok (-3) ∧
      Text.at? listStream 7 = some { type := "bullet_list_close", nesting := -1, level := 1 } := by
  have recorded : RecordedFrom 1
      (enclose { type := "bullet_list_open", nesting := 1, level := 1 } itemGroup
        { type := "bullet_list_close", nesting := -1, level := 1 }) := by
    simp [itemGroup, enclose, RecordedFrom, BlockToken.recordedLevel]
  have front : closeIndex listStream 1 = .ok 7 ∧ Text.at? listStream 7 =
      some { type := "bullet_list_close", nesting := -1, level := 1 } :=
    closeIndex_group rfl itemGroup_balanced rfl recorded rfl rfl
  have back : closeIndex listStream (-9) = .ok (-3) ∧ Text.at? listStream (-3) =
      some { type := "bullet_list_close", nesting := -1, level := 1 } :=
    closeIndex_group rfl itemGroup_balanced rfl recorded rfl rfl
  exact ⟨front.1, back.1, front.2⟩

end CardPress
