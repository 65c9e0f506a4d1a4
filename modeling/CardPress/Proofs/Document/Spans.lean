import CardPress.Document.Source
import Mathlib.Data.List.DropRight

/-!
# Spans within the lines

A span that lies within the lines never fails to be read.  Its content is its lines without the
blank ones at its end, its source is the content joined again, and a quote takes the marker off each
of its lines and leaves all others as they are.
-/

namespace CardPress

/-- A span that lies within a number of lines. -/
structure Span.Within (count : Nat) (span : Span) : Prop where
  start_nonneg : 0 ≤ span.1
  start_le_stop : span.1 ≤ span.2
  stop_le : span.2 ≤ count

namespace Span.Within

variable {count : Nat} {span : Span}

/-- A span within some lines is given by two positions. -/
theorem exists_eq (within : Span.Within count span) :
    ∃ start width : Nat, span = ((start : Int), ((start + width : Nat) : Int)) ∧
      start + width ≤ count := by
  obtain ⟨first, last⟩ := span
  obtain ⟨nonneg, ordered, inside⟩ := within
  change 0 ≤ first at nonneg
  change first ≤ last at ordered
  change last ≤ count at inside
  refine ⟨first.toNat, (last - first).toNat, ?_, by omega⟩
  rw [Prod.mk.injEq]
  omega

end Span.Within

/-- The lines of a span without the blank ones at its end. -/
def contentLines (lines : List String) (span : Span) : List String :=
  ((lines.drop span.1.toNat).take (span.2 - span.1).toNat).rdropWhile Text.isBlankLine

theorem length_contentLines_le (lines : List String) (span : Span) :
    (contentLines lines span).length ≤ (span.2 - span.1).toNat :=
  (List.rdropWhile_prefix _ _).length_le.trans (List.length_take_le _ _)

/-- The content of a span, joined again; without a span there is none. -/
def sourceText (lines : List String) : Option Span → String
  | none => ""
  | some span => "\n".intercalate (contentLines lines span)

/-- The lines of a page as they stand inside a quote of the given span. -/
def innerLines (lines : List String) (span : Span) : List String :=
  lines.mapIdx fun index line =>
    if span.1 ≤ index ∧ index < span.2 then dropQuoteMarker line else line

@[simp]
theorem length_innerLines (lines : List String) (span : Span) :
    (innerLines lines span).length = lines.length := by
  simp [innerLines]

/-! ## Content -/

/-- Moving back over blank lines keeps the lines that are left when the blank ones are dropped. -/
theorem trimBlank_eq (lines : List String) (start width : Nat)
    (inside : start + width ≤ lines.length) :
    trimBlank lines ((start + width : Nat) : Int) width =
      .ok ((start + (((lines.drop start).take width).rdropWhile Text.isBlankLine).length : Nat) :
        Int) := by
  induction width with
  | zero => simp [trimBlank]
  | succ width induction =>
      have within : width < (lines.drop start).length := by
        rw [List.length_drop]
        omega
      have before : ((start + (width + 1) : Nat) : Int) - 1 = ((start + width : Nat) : Int) := by
        omega
      have last : lines[start + width]? = some (lines.drop start)[width] := by
        rw [← List.getElem?_drop, List.getElem?_eq_getElem within]
      rw [trimBlank, before, Text.at?_ofNat, last, List.take_succ_eq_append_getElem within]
      by_cases blank : Text.isBlankLine (lines.drop start)[width]
      · rw [List.rdropWhile_concat_pos _ _ _ blank]
        simp only [blank, if_true]
        exact induction (by omega)
      · rw [List.rdropWhile_concat_neg _ _ _ blank]
        simp only [blank, Bool.false_eq_true, if_false]
        rw [List.length_append, List.length_take_of_le (by omega)]
        rfl

/-- The end of a span's content is the end of its lines without the blank ones at its end. -/
theorem contentEnd_eq {lines : List String} {span : Span}
    (within : Span.Within lines.length span) :
    contentEnd lines span = .ok (span.1 + (contentLines lines span).length) := by
  obtain ⟨start, width, rfl, inside⟩ := within.exists_eq
  have distance : (((start + width : Nat) : Int) - (start : Int)).toNat = width := by omega
  rw [contentEnd, contentLines, Int.toNat_natCast, distance, trimBlank_eq lines start width inside]
  rfl

/-- The lines up to the end of a span's content are its content. -/
theorem slice_contentLines {lines : List String} {span : Span}
    (within : Span.Within lines.length span) :
    Text.slice lines span.1 (span.1 + (contentLines lines span).length) =
      contentLines lines span := by
  obtain ⟨start, width, rfl, inside⟩ := within.exists_eq
  have distance : (((start + width : Nat) : Int) - (start : Int)).toNat = width := by omega
  have part : contentLines lines ((start : Int), ((start + width : Nat) : Int)) <+:
      lines.drop start := by
    rw [contentLines, Int.toNat_natCast, distance]
    exact (List.rdropWhile_prefix _ _).trans (List.take_prefix width _)
  generalize contentLines lines ((start : Int), ((start + width : Nat) : Int)) = content at part ⊢
  have fits : start + content.length ≤ lines.length := by
    have shorter := part.length_le
    rw [List.length_drop] at shorter
    omega
  rw [← Int.natCast_add, Text.slice, Text.bound_ofNat, Text.bound_ofNat, Nat.min_eq_left fits,
    Nat.min_eq_left (by omega), List.drop_take, Nat.add_sub_cancel_left]
  exact (List.prefix_iff_eq_take.mp part).symm

/-- The source of spans within the lines is always found, and of a token without a span as well. -/
theorem rawText_eq {lines : List String} {span : Option Span}
    (within : ∀ covered ∈ span, Span.Within lines.length covered) :
    rawText lines span = .ok (sourceText lines span) := by
  cases span with
  | none => rfl
  | some span =>
      have inside := within span rfl
      rw [rawText, contentEnd_eq inside]
      change Except.ok _ = _
      rw [slice_contentLines inside, sourceText]

/-! ## Quotes -/

/-- Dropping the markers of a range of lines changes exactly these lines. -/
theorem dropMarkersFrom_eq (lines : List String) (start count : Nat)
    (inside : start + count ≤ lines.length) :
    dropMarkersFrom count (start : Int) lines =
      .ok (lines.mapIdx fun index line =>
        if start ≤ index ∧ index < start + count then dropQuoteMarker line else line) := by
  induction count generalizing start lines with
  | zero =>
      rw [dropMarkersFrom]
      congr 1
      apply List.ext_getElem
      · simp
      · intro index first second
        rw [List.getElem_mapIdx, if_neg (by omega)]
  | succ count induction =>
      have next : (start : Int) + 1 = ((start + 1 : Nat) : Int) := by omega
      rw [dropMarkersFrom, Text.position?_ofNat, if_pos (by omega)]
      change dropMarkersFrom count ((start : Int) + 1) (lines.modify start dropQuoteMarker) = _
      rw [next, induction _ _ (by rw [List.length_modify]; omega)]
      congr 1
      apply List.ext_getElem
      · simp
      · intro index first second
        rw [List.getElem_mapIdx, List.getElem_mapIdx, List.getElem_modify]
        by_cases here : start = index
        · rw [if_neg (by omega), if_pos here, if_pos (by omega)]
        · rw [if_neg here]
          by_cases later : start + 1 ≤ index ∧ index < start + 1 + count
          · rw [if_pos later, if_pos (by omega)]
          · rw [if_neg later, if_neg (by omega)]

/-- The lines of a quote within the page are always found. -/
theorem dropQuoteMarkers_eq {lines : List String} {span : Span}
    (within : Span.Within lines.length span) :
    dropQuoteMarkers lines span = .ok (innerLines lines span) := by
  obtain ⟨start, width, rfl, inside⟩ := within.exists_eq
  have count : (min ((start + width : Nat) : Int) (lines.length : Int) - (start : Int)).toNat =
      width := by
    omega
  rw [dropQuoteMarkers, count, dropMarkersFrom_eq lines start width inside, innerLines]
  simp only [Int.ofNat_le, Int.ofNat_lt]

end CardPress
