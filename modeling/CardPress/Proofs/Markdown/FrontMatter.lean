import CardPress.Proofs.Markdown.Containers

/-!
# Markdown without front matter

Whether front matter is looked for makes no difference to a text in which none is found: no other
block depends on it.
-/

namespace CardPress
namespace Markdown

/-- Tokens without front matter among them. -/
def IsPlain (tokens : List BlockToken) : Prop :=
  ∀ token ∈ tokens, token.type ≠ "front_matter"

namespace IsPlain

variable {front back : List BlockToken}

theorem left (plain : IsPlain (front ++ back)) : IsPlain front :=
  fun token member => plain token (List.mem_append_left back member)

theorem right (plain : IsPlain (front ++ back)) : IsPlain back :=
  fun token member => plain token (List.mem_append_right front member)

theorem of_enclose {type tag : String} {level start stop : Nat}
    (plain : IsPlain (enclose type tag level start stop front)) : IsPlain front :=
  IsPlain.left (fun token member => plain token (List.mem_cons_of_mem _ member))

end IsPlain

/-- The region in which no front matter is looked for. -/
def Region.plain (region : Region) : Region :=
  { region with frontMatter := false }

/-- A function that reads the same blocks when no front matter is looked for, unless it finds
some. -/
def FindsPlain (inner : Reader) : Prop :=
  ∀ (region : Region) (start limit : Nat), IsPlain (inner region start limit).tokens →
    inner region.plain start limit = inner region start limit

/-- A block is found as well when no front matter is looked for, unless it holds some. -/
structure SamePlain (first second : Option Reading) : Prop where
  found : ∀ reading ∈ first, IsPlain reading.tokens → second = some reading
  missing : first = none → second = none

namespace SamePlain

variable {first second : Option Reading}

theorem of_eq (same : second = first) : SamePlain first second :=
  ⟨fun _ found _ => same.trans found, fun missing => same.trans missing⟩

theorem orElse {third fourth : Option Reading} (front : SamePlain first second)
    (back : SamePlain third fourth) : SamePlain (first <|> third) (second <|> fourth) := by
  cases first with
  | none =>
      rw [front.missing rfl]
      exact back
  | some reading =>
      refine ⟨fun other found plain => ?_, fun missing => by cases missing⟩
      cases found
      rw [front.found reading rfl plain]
      rfl

theorem getD (same : SamePlain first second) (other : Reading)
    (plain : IsPlain (first.getD other).tokens) : second.getD other = first.getD other := by
  cases first with
  | none => rw [same.missing rfl]
  | some reading => rw [same.found reading rfl plain]

end SamePlain

namespace Region

variable (region : Region)

/-! ## What does not depend on front matter -/

theorem skipEmpty_plain (index : Nat) : region.plain.skipEmpty index = region.skipEmpty index := by
  with_unfolding_all rfl

theorem table?_plain (start limit : Nat) :
    region.plain.table? start limit = region.table? start limit := by
  with_unfolding_all rfl

theorem code?_plain (start limit : Nat) :
    region.plain.code? start limit = region.code? start limit := by
  with_unfolding_all rfl

theorem fence?_plain (start limit : Nat) :
    region.plain.fence? start limit = region.fence? start limit := by
  with_unfolding_all rfl

theorem break?_plain (start : Nat) : region.plain.break? start = region.break? start := by
  with_unfolding_all rfl

theorem definition?_plain (start : Nat) :
    region.plain.definition? start = region.definition? start := by
  with_unfolding_all rfl

theorem html?_plain (start limit : Nat) :
    region.plain.html? start limit = region.html? start limit := by
  with_unfolding_all rfl

theorem heading?_plain (start : Nat) : region.plain.heading? start = region.heading? start := by
  with_unfolding_all rfl

theorem underlined?_plain (start limit : Nat) :
    region.plain.underlined? start limit = region.underlined? start limit := by
  with_unfolding_all rfl

theorem paragraph_plain (start : Nat) : region.plain.paragraph start = region.paragraph start := by
  with_unfolding_all rfl

theorem listMarker?_plain (start : Nat) :
    region.plain.listMarker? start = region.listMarker? start :=
  rfl

theorem nextMarker?_plain (marker : ListMarker) (start limit : Nat) :
    region.plain.nextMarker? marker start limit = region.nextMarker? marker start limit :=
  rfl

/-- The region inside a quote differs in nothing else. -/
theorem quoteRegion?_plain (start limit : Nat) :
    region.plain.quoteRegion? start limit =
      (region.quoteRegion? start limit).map fun (content, stop) => (content.plain, stop) := by
  unfold quoteRegion?
  by_cases code : region.isCode start
  · have code' : region.plain.isCode start := code
    rw [if_pos code, if_pos code']
    rfl
  · have code' : ¬region.plain.isCode start := code
    rw [if_neg code, if_neg code', Option.map_map]
    with_unfolding_all rfl

/-- The region inside an item differs in nothing else. -/
theorem itemRegion?_plain (marker : ListMarker) (start : Nat) :
    region.plain.itemRegion? marker start =
      (region.itemRegion? marker start).map Region.plain := by
  unfold itemRegion?
  dsimp only
  rw [apply_ite (Option.map Region.plain)]
  rfl

/-! ## Containers -/

section containers

variable {inner : Reader} (finds : FindsPlain inner)

include finds

theorem quote?_samePlain (start limit : Nat) :
    SamePlain (region.quote? inner start limit) (region.plain.quote? inner start limit) := by
  rw [quote?_eq, quote?_eq, quoteRegion?_plain, Option.map_map]
  cases region.quoteRegion? start limit with
  | none => exact .of_eq rfl
  | some content =>
      obtain ⟨content, stop⟩ := content
      refine ⟨fun reading found plain => ?_, fun missing => by cases missing⟩
      cases found
      have same := finds content start stop plain.of_enclose
      simp only [Option.map_some, Function.comp_apply, same]
      rfl

theorem item_plain (marker : ListMarker) (start limit : Nat)
    (plain : IsPlain (region.item inner marker start limit).tokens) :
    region.plain.item inner marker start limit = region.item inner marker start limit := by
  rw [item_eq] at plain ⊢
  rw [item_eq, itemRegion?_plain, Option.map_map]
  cases placed : region.itemRegion? marker start with
  | none => rfl
  | some content =>
      rw [placed] at plain
      have same := finds content start limit plain.of_enclose
      simp only [Option.map_some, Option.getD_some, Function.comp_apply, same]
      rfl

theorem items_plain (limit fuel : Nat) (marker : ListMarker) (start : Nat)
    (plain : IsPlain (region.items inner limit fuel marker start).tokens) :
    region.plain.items inner limit fuel marker start =
      region.items inner limit fuel marker start := by
  induction fuel generalizing marker start with
  | zero => rfl
  | succ fuel induction =>
      rw [items_succ] at plain ⊢
      rw [items_succ]
      dsimp only at plain ⊢
      -- The first item ends at the same line, so the marker of the next one is the same, too.
      generalize measured : region.nextMarker? marker (region.item inner marker start limit).next
        limit = other? at plain ⊢
      cases other? with
      | none =>
          have first := item_plain region finds marker start limit plain
          rw [first, nextMarker?_plain, measured]
      | some other =>
          have first := item_plain region finds marker start limit plain.left
          have rest := induction other (region.item inner marker start limit).next plain.right
          rw [first, nextMarker?_plain, measured]
          simp only [rest]

theorem list?_samePlain (start limit : Nat) :
    SamePlain (region.list? inner start limit) (region.plain.list? inner start limit) := by
  unfold list?
  rw [listMarker?_plain]
  cases region.listMarker? start with
  | none => exact .of_eq rfl
  | some marker =>
      refine ⟨fun reading found plain => ?_, fun missing => by cases missing⟩
      cases found
      have inside : IsPlain (region.items inner limit (limit - start) marker start).tokens := by
        cases ordered : marker.number.isSome with
        | _ => exact plain.of_enclose
      have same := items_plain region finds limit (limit - start) marker start inside
      simp only [Option.map_some, same]
      rfl

/-! ## All blocks -/

omit finds in
/-- Front matter is one token of its own type. -/
theorem frontMatter?_tokens {start limit : Nat} {reading : Reading}
    (found : region.frontMatter? start limit = some reading) :
    ∃ token, reading.tokens = [token] ∧ token.type = "front_matter" := by
  rw [frontMatter?, Option.ite_none_left_eq_some] at found
  obtain ⟨-, found⟩ := found
  obtain ⟨_, -, rfl⟩ := Option.map_eq_some_iff.mp found
  exact ⟨_, rfl, rfl⟩

/-- A block that holds no front matter is read as well when none is looked for. -/
theorem block_plain (start limit : Nat)
    (plain : IsPlain (region.block inner start limit).tokens) :
    region.plain.block inner start limit = region.block inner start limit := by
  have unmatched : SamePlain (region.frontMatter? start limit)
      (region.plain.frontMatter? start limit) := by
    have missing : region.plain.frontMatter? start limit = none := by
      simp [frontMatter?, Region.plain]
    refine ⟨fun reading found plain => ?_, fun _ => missing⟩
    obtain ⟨token, tokens, type⟩ := region.frontMatter?_tokens found
    rw [tokens] at plain
    exact absurd type (plain token List.mem_cons_self)
  unfold block at plain ⊢
  rw [paragraph_plain]
  refine SamePlain.getD ?_ _ plain
  exact unmatched.orElse <|
    .orElse (.of_eq (region.table?_plain start limit)) <|
    .orElse (.of_eq (region.code?_plain start limit)) <|
    .orElse (.of_eq (region.fence?_plain start limit)) <|
    .orElse (region.quote?_samePlain finds start limit) <|
    .orElse (.of_eq (region.break?_plain start)) <|
    .orElse (region.list?_samePlain finds start limit) <|
    .orElse (.of_eq (region.definition?_plain start)) <|
    .orElse (.of_eq (region.html?_plain start limit)) <|
    .orElse (.of_eq (region.heading?_plain start)) <|
    .of_eq (region.underlined?_plain start limit)

theorem blocksWith_plain (limit fuel start : Nat)
    (plain : IsPlain (region.blocksWith inner limit fuel start).tokens) :
    region.plain.blocksWith inner limit fuel start =
      region.blocksWith inner limit fuel start := by
  induction fuel generalizing start with
  | zero => rfl
  | succ fuel induction =>
      have outside (index : Nat) : region.plain.isOutside index = region.isOutside index := rfl
      have empty (index : Nat) : region.plain.isEmpty index = region.isEmpty index := rfl
      have level : region.plain.level = region.level := rfl
      rw [blocksWith] at plain ⊢
      rw [blocksWith, skipEmpty_plain]
      dsimp only at plain ⊢
      -- All questions about lines have the same answer; only the blocks themselves can differ.
      simp only [outside, empty, level]
      split
      · rfl
      · next goesOn =>
        rw [if_neg goesOn] at plain
        split
        · rfl
        · next starts =>
          rw [if_neg starts] at plain
          split
          · rfl
          · next shallow =>
            rw [if_neg shallow] at plain
            have first := block_plain region finds _ limit plain.left
            have rest := induction _ plain.right
            rw [first, rest]

end containers

/-- Blocks are read as well when no front matter is looked for, unless there is some. -/
theorem findsPlain_blocks (depth : Nat) : FindsPlain (blocks depth) := by
  induction depth with
  | zero => exact fun _ _ _ _ => rfl
  | succ depth induction =>
      exact fun region start limit plain => blocksWith_plain region induction limit _ start plain

end Region

/-- A text that holds no front matter has the same tokens when none is looked for. -/
theorem tokens_plain {text : String} (plain : IsPlain (tokens true text)) :
    tokens false text = tokens true text := by
  have type_eq (targets : List (List Char × Target)) (token : BlockToken) :
      (readText targets token).type = token.type := by
    unfold readText
    split <;> rfl
  have blocks : IsPlain (blockTokens true (normalizeText text.toList)) := by
    intro token member
    have changed := plain _ (List.mem_map_of_mem member)
    rwa [type_eq] at changed
  have same : blockTokens false (normalizeText text.toList) =
      blockTokens true (normalizeText text.toList) :=
    congrArg Reading.tokens (Region.findsPlain_blocks _ _ _ _ blocks)
  rw [tokens, same]
  rfl

end Markdown
end CardPress
