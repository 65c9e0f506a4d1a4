import CardPress.Proofs.Markdown.Extent

/-!
# Regions inside containers

Quotes and items of lists are read from regions of their own, which stand in the same text one or
two levels deeper.  What encloses the blocks that are read there depends on them only through the
line where they end.
-/

namespace CardPress
namespace Markdown
namespace Region

/-! ## Quotes -/

section quotes

variable (region : Region) (inner : Reader) (start limit : Nat)

/-- The region inside a quote, and the line behind it. -/
def quoteRegion? : Option (Region × Nat) :=
  if region.isCode start then none
  else
    (region.line start).behindQuoteMarker?.map fun first =>
      let lines := region.lines.setIfInBounds start first
      let extent := region.quoteLines limit first.isEmpty lines (start + 1)
      ({ region with
          lines := extent.lines
          stop := if extent.isCut then extent.stop else region.stop
          margin := 0
          level := region.level + 1 },
        extent.stop)

/-- A quote encloses what is read from its region. -/
theorem quote?_eq :
    region.quote? inner start limit =
      (region.quoteRegion? start limit).map fun (region', stop) =>
        let content := inner region' start stop
        { content with
          tokens :=
            enclose "blockquote" "blockquote" region.level start content.next content.tokens } := by
  unfold quote? quoteRegion?
  split
  · rfl
  · rw [Option.map_map]
    rfl

variable {region start limit}

/-- The region inside a quote stands in the same text, one level deeper. -/
theorem quoteRegion?_stands {count stop : Nat} {content : Region} (stands : region.Stands count)
    (below : start < limit) (inside : limit ≤ count)
    (found : region.quoteRegion? start limit = some (content, stop)) :
    content.Stands count ∧ content.level = region.level + 1 ∧ start < stop ∧ stop ≤ count := by
  rw [quoteRegion?, Option.ite_none_left_eq_some] at found
  obtain ⟨-, found⟩ := found
  obtain ⟨first, marked, equal⟩ := Option.map_eq_some_iff.mp found
  cases equal
  have standing := stands.lines.set ((stands.line start).behindQuoteMarker? marked)
  obtain ⟨lines, forward, within⟩ :=
    region.quoteLines_bounds first.isEmpty stands standing below
  refine ⟨⟨?_, lines⟩, rfl, forward, Nat.le_trans within inside⟩
  dsimp only
  split
  · exact Nat.le_trans within inside
  · exact stands.stop_le

end quotes

/-! ## Items of lists -/

section items

variable (region : Region) (marker : ListMarker) (inner : Reader) (start limit : Nat)

/-- The region inside an item of a list, unless the item is blank. -/
def itemRegion? : Option Region :=
  let line := region.line start
  let behind := line.column.toNat + marker.width
  let rest := line.content.drop marker.width
  let (blanks, column) := measureSpaces line.offset behind rest
  let isBlank := rest.length ≤ blanks
  let width := if isBlank || behind + 4 < column then 1 else column - behind
  if isBlank && region.isEmpty (start + 1) then none
  else
    some
      { region with
        lines :=
          region.lines.setIfInBounds start
            { line with
              indent := line.indent + marker.width + blanks
              column := (column : Int) }
        margin := behind + width
        listMargin := some region.margin
        level := region.level + 2 }

/-- An item encloses what is read from its region. -/
theorem item_eq :
    region.item inner marker start limit =
      let content := ((region.itemRegion? marker start).map (inner · start limit)).getD
        { tokens := []
          next := min (start + 2) limit }
      { content with
        tokens :=
          enclose "list_item" "li" (region.level + 1) start content.next content.tokens } := by
  unfold item itemRegion?
  dsimp only
  split
  · rfl
  · rfl

/-- The marker of the item that goes on with a list at a line. -/
def nextMarker? : Option ListMarker :=
  if limit ≤ start || region.isOutside start || region.isCode start || region.endsItem start then
    none
  else (ListMarker.ofContent? (region.content start)).filter marker.continues

/-- A list goes on behind an item where there is a marker of another one. -/
theorem items_succ (fuel : Nat) :
    region.items inner limit (fuel + 1) marker start =
      let item := region.item inner marker start limit
      match region.nextMarker? marker item.next limit with
      | some other =>
          let rest := region.items inner limit fuel other item.next
          { rest with tokens := item.tokens ++ rest.tokens }
      | none => item := by
  rw [items]
  unfold nextMarker?
  dsimp only
  split
  · rfl
  · cases ListMarker.ofContent? (region.content (region.item inner marker start limit).next) with
    | none => rfl
    | some other =>
        cases goesOn : marker.continues other with
        | true => simp [Option.filter_some, goesOn]
        | false => simp [Option.filter_some, goesOn]

variable {region marker start limit}

theorem nextMarker?_lt {other : ListMarker}
    (found : region.nextMarker? marker start limit = some other) : start < limit := by
  rw [nextMarker?, Option.ite_none_left_eq_some] at found
  simp only [Bool.or_eq_true, decide_eq_true_eq, not_or, Nat.not_le] at found
  exact found.1.1.1.1

/-- The region inside an item stands in the same text, two levels deeper. -/
theorem itemRegion?_stands {count : Nat} {content : Region} (stands : region.Stands count)
    (found : region.itemRegion? marker start = some content) :
    content.Stands count ∧ content.level = region.level + 2 := by
  unfold itemRegion? at found
  dsimp only at found
  rw [Option.ite_none_left_eq_some] at found
  obtain ⟨-, equal⟩ := found
  cases equal
  obtain ⟨unbroken, followed⟩ := stands.line start
  exact ⟨⟨stands.stop_le, stands.lines.set ⟨unbroken, followed⟩⟩, rfl⟩

end items

end Region
end Markdown
end CardPress
