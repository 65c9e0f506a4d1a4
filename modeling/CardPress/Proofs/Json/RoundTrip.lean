import CardPress.Json.Printer
import CardPress.Json.Reader
import Mathlib.Tactic.SplitIfs

/-!
# Reading what was written

Each part of a written value reads back, whatever follows it: an escaped character, a quoted text,
a number in front of anything that cannot continue it, and then lists and objects from their
entries.  The layout only puts white space between tokens, so that one statement covers every
indentation and every depth.  A value written on one line holds no control character.
-/

namespace CardPress
namespace Json

/-! ## Text -/

theorem hexValue?_hexDigit (value : Nat) (small : value < 16) :
    hexValue? (hexDigit value) = some value := by
  revert value
  decide

theorem hexQuad?_control (code : Nat) (control : code < 32) (rest : List CodePoint) :
    hexQuad? (.char '0' :: .char '0' :: .char (hexDigit (code / 16)) :: .char (hexDigit code) ::
      rest) = some (code, rest) := by
  have high : hexValue? (hexDigit (code / 16)) = some (code / 16) :=
    hexValue?_hexDigit (code / 16) (by omega)
  have low : hexValue? (hexDigit code) = some (code % 16) := by
    have same : hexDigit code = hexDigit (code % 16) := by simp [hexDigit]
    rw [same]
    exact hexValue?_hexDigit (code % 16) (by omega)
  have zero : hexValue? '0' = some 0 := by decide
  have value : (0 * 16 + 0) * 16 + code / 16 = code / 16 := by omega
  simp only [hexQuad?, zero, high, low, Option.bind_eq_bind, Option.bind_some, value]
  rw [Nat.div_add_mod' code 16]
  rfl

theorem codePoint_control (code : Nat) (control : code < 32) (rest : List CodePoint) :
    codePoint code rest = (.char (Char.ofNat code), rest) := by
  have notHigh : ¬(0xD800 ≤ code ∧ code < 0xDC00) := by omega
  have notHalf : ¬(0xD800 ≤ code ∧ code < 0xE000) := by omega
  rw [codePoint, if_neg notHigh, CodePoint.ofNat, if_neg notHalf]

/-- A character that is escaped by a letter. -/
theorem readText_letter (fuel : Nat) (letter c : Char) (rest : List CodePoint)
    (notHex : letter ≠ 'u') (meaning : unescape? letter = some c) :
    readText (fuel + 1) (.char '\\' :: .char letter :: rest) =
      (readText fuel rest).map fun found => (.char c :: found.1, found.2) := by
  rw [readText, meaning]
  · cases readText fuel rest <;> rfl
  · simpa using notHex

/-- A code point that stands for itself. -/
theorem readText_plain (fuel : Nat) (point : CodePoint) (rest : List CodePoint)
    (notQuote : point ≠ .char '"') (notBackslash : point ≠ .char '\\')
    (printed : 32 ≤ point.code) :
    readText (fuel + 1) (point :: rest) =
      (readText fuel rest).map fun found => (point :: found.1, found.2) := by
  rw [readText]
  · have allowed : ¬(point.code < 32 ∨ point = .char '\\') := by
      rintro (control | backslash)
      · omega
      · exact notBackslash backslash
    rw [if_neg allowed]
    cases readText fuel rest <;> rfl
  · exact notQuote
  · intro tail backslash
    exact absurd backslash notBackslash
  · intro letter tail backslash
    exact absurd backslash notBackslash

/-- One escaped character reads back as that character. -/
theorem readText_escape (fuel : Nat) (c : Char) (rest : List CodePoint) :
    readText (fuel + 1) ((escape c).map .char ++ rest) =
      (readText fuel rest).map fun found => (.char c :: found.1, found.2) := by
  unfold escape
  split_ifs with quote backslash feed carriage tab back form control
  · subst quote
    exact readText_letter fuel '"' '"' rest (by decide) rfl
  · subst backslash
    exact readText_letter fuel '\\' '\\' rest (by decide) rfl
  · subst feed
    exact readText_letter fuel 'n' '\n' rest (by decide) rfl
  · subst carriage
    exact readText_letter fuel 'r' '\r' rest (by decide) rfl
  · subst tab
    exact readText_letter fuel 't' '\t' rest (by decide) rfl
  · subst back
    exact readText_letter fuel 'b' '\x08' rest (by decide) rfl
  · subst form
    exact readText_letter fuel 'f' '\x0c' rest (by decide) rfl
  · simp only [List.map_cons, List.map_nil, List.cons_append, List.nil_append, readText]
    rw [hexQuad?_control c.toNat control]
    simp only [Option.bind_eq_bind, Option.bind_some]
    rw [codePoint_control c.toNat control, Char.ofNat_toNat]
    cases readText fuel rest <;> rfl
  · refine readText_plain fuel (.char c) rest (by simpa using quote) (by simpa using backslash) ?_
    exact Nat.le_of_not_lt control

/-- One escaped code point reads back as that code point. -/
theorem readText_escapePoint (fuel : Nat) (point : CodePoint) (rest : List CodePoint) :
    readText (fuel + 1) (escapePoint point ++ rest) =
      (readText fuel rest).map fun found => (point :: found.1, found.2) := by
  cases point with
  | char c => exact readText_escape fuel c rest
  | lone half =>
      refine readText_plain fuel (.lone half) rest (by simp) (by simp) ?_
      exact Nat.le_trans (by decide) (Nat.le_add_right 0xD800 half)

theorem length_le_flatMap_escapePoint (points : List CodePoint) :
    points.length ≤ (points.flatMap escapePoint).length := by
  induction points with
  | nil => simp
  | cons point points induction =>
      have positive : 0 < (escapePoint point).length := by
        cases point with
        | char c =>
            rw [escapePoint, escape]
            split_ifs <;> simp
        | lone half => simp [escapePoint]
      simp only [List.length_cons, List.flatMap_cons, List.length_append]
      omega

/-- An escaped text reads back up to its closing quote. -/
theorem readText_flatMap_escapePoint (points rest : List CodePoint) (fuel : Nat)
    (enough : points.length < fuel) :
    readText fuel (points.flatMap escapePoint ++ .char '"' :: rest) = some (points, rest) := by
  induction points generalizing fuel with
  | nil =>
      cases fuel with
      | zero => simp at enough
      | succ fuel => simp [readText]
  | cons point points induction =>
      cases fuel with
      | zero => simp at enough
      | succ fuel =>
          have shorter : points.length < fuel := by simpa using enough
          rw [List.flatMap_cons, List.append_assoc, readText_escapePoint, induction fuel shorter]
          rfl

/-- A quoted text reads back with the fuel that its length gives. -/
theorem readText_quoted (points rest : List CodePoint) :
    readText ((points.flatMap escapePoint ++ .char '"' :: rest).length + 1)
        (points.flatMap escapePoint ++ .char '"' :: rest) =
      some (points, rest) := by
  apply readText_flatMap_escapePoint
  have bound := length_le_flatMap_escapePoint points
  rw [List.length_append, List.length_cons]
  omega

/-! ## Numbers -/

/-- What follows a number and cannot continue it. -/
def EndsNumber (rest : List CodePoint) : Prop :=
  ∀ c, rest.head? = some (.char c) → c.isDigit = false ∧ c ≠ '.' ∧ c ≠ 'e' ∧ c ≠ 'E'

theorem endsNumber_nil : EndsNumber [] := by simp [EndsNumber]

theorem endsNumber_cons {c : Char} (rest : List CodePoint) (notDigit : c.isDigit = false)
    (notPoint : c ≠ '.') (notLower : c ≠ 'e') (notUpper : c ≠ 'E') :
    EndsNumber (.char c :: rest) := by
  intro head equal
  rw [List.head?_cons, Option.some.injEq, CodePoint.char.injEq] at equal
  exact equal ▸ ⟨notDigit, notPoint, notLower, notUpper⟩

theorem spanDigits_of_endsNumber {rest : List CodePoint} (ends : EndsNumber rest) :
    spanDigits rest = ([], rest) := by
  match rest with
  | [] => rfl
  | .lone half :: rest => rfl
  | .char c :: rest =>
      have notDigit := (ends c rfl).1
      simp [spanDigits, notDigit]

theorem spanDigits_append {found : List Char} {rest : List CodePoint}
    (digits : ∀ c ∈ found, c.isDigit) (ends : EndsNumber rest) :
    spanDigits (found.map .char ++ rest) = (found, rest) := by
  induction found with
  | nil => exact spanDigits_of_endsNumber ends
  | cons c found induction =>
      obtain ⟨first, later⟩ := List.forall_mem_cons.mp digits
      rw [List.map_cons, List.cons_append, spanDigits, if_pos first, induction later]

theorem ofDigits_eq (chars : List Char) : ofDigits chars = Nat.ofDigitChars 10 chars 0 := by
  simp [ofDigits, Nat.ofDigitChars_eq_foldl, Nat.mul_comm]

/-- A number that is not zero does not start with a zero. -/
theorem head?_toDigits_ne_zero (value : Nat) (positive : 0 < value) :
    (Nat.toDigits 10 value).head? ≠ some '0' := by
  induction value using Nat.strongRecOn with
  | ind value induction =>
      by_cases small : value < 10
      · rw [Nat.toDigits_of_lt_base small, List.head?_cons, ne_eq, Option.some.injEq]
        intro zero
        have code := Nat.toNat_digitChar_of_lt_ten small
        rw [zero] at code
        simp at code
        omega
      · rw [Nat.toDigits_of_base_le (by decide) (by omega), List.head?_append]
        have front := induction (value / 10) (by omega) (by omega)
        cases digits : (Nat.toDigits 10 (value / 10)).head? with
        | none => exact absurd (List.head?_eq_none_iff.mp digits) Nat.toDigits_ne_nil
        | some first => rwa [digits] at front

theorem readWhole_toDigits (value : Nat) {rest : List CodePoint} (ends : EndsNumber rest) :
    readWhole ((Nat.toDigits 10 value).map .char ++ rest) =
      some (Nat.toDigits 10 value, rest) := by
  rcases Nat.eq_zero_or_pos value with rfl | positive
  · simp [readWhole]
  · have notZero := head?_toDigits_ne_zero value positive
    have spanned : spanDigits ((Nat.toDigits 10 value).map .char ++ rest) =
        (Nat.toDigits 10 value, rest) :=
      spanDigits_append
        (fun c member => Nat.isDigit_of_mem_toDigits (by decide) (by decide) member) ends
    cases digits : Nat.toDigits 10 value with
    | nil => exact absurd digits Nat.toDigits_ne_nil
    | cons first others =>
        rw [digits] at notZero spanned
        have firstNotZero : first ≠ '0' := by simpa using notZero
        rw [List.map_cons, List.cons_append] at spanned ⊢
        rw [readWhole, spanned]
        intro tail equal
        exact firstNotZero (CodePoint.char.inj (List.cons.inj equal).1)

theorem readFraction_of_endsNumber {rest : List CodePoint} (ends : EndsNumber rest) :
    readFraction rest = some ([], rest) := by
  rw [readFraction]
  rintro tail rfl
  exact (ends '.' rfl).2.1 rfl

theorem readExponent_of_endsNumber {rest : List CodePoint} (ends : EndsNumber rest) :
    readExponent rest = some ([], rest) := by
  match rest with
  | [] => rfl
  | .lone half :: rest => rfl
  | .char c :: rest =>
      obtain ⟨-, -, notLower, notUpper⟩ := ends c rfl
      simp [readExponent, notLower, notUpper]

/-- The digits of a number start with a digit. -/
theorem toDigits_eq_cons (value : Nat) :
    ∃ first others, Nat.toDigits 10 value = first :: others ∧ first.isDigit := by
  cases equal : Nat.toDigits 10 value with
  | nil => exact absurd equal Nat.toDigits_ne_nil
  | cons first others =>
      have member : first ∈ Nat.toDigits 10 value := by simp [equal]
      exact ⟨first, others, rfl, Nat.isDigit_of_mem_toDigits (by decide) (by decide) member⟩

/-- An integer reads back in front of anything that cannot continue it. -/
theorem readNumber_digits (value : Int) {rest : List CodePoint} (ends : EndsNumber rest) :
    readNumber ((digits value).map .char ++ rest) = some (.integer value, rest) := by
  have whole := readWhole_toDigits value.natAbs ends
  have fraction := readFraction_of_endsNumber ends
  have exponent := readExponent_of_endsNumber ends
  have magnitude : ofDigits (Nat.toDigits 10 value.natAbs) = value.natAbs := by
    rw [ofDigits_eq, Nat.ofDigitChars_ten_toDigits]
  by_cases negative : value < 0
  · have absolute : -(value.natAbs : Int) = value := by omega
    rw [digits, if_pos negative]
    generalize value.natAbs = size at whole magnitude absolute ⊢
    simp [readNumber, whole, fraction, exponent, magnitude, absolute]
  · have absolute : (value.natAbs : Int) = value := by omega
    have unsigned (tail : List CodePoint) :
        (Nat.toDigits 10 value.natAbs).map .char ++ rest ≠ .char '-' :: tail := by
      obtain ⟨first, others, equal, digit⟩ := toDigits_eq_cons value.natAbs
      rw [equal, List.map_cons, List.cons_append]
      intro sign
      rw [CodePoint.char.inj (List.cons.inj sign).1] at digit
      exact absurd digit (by decide)
    rw [digits, if_neg negative]
    generalize value.natAbs = size at whole magnitude absolute unsigned ⊢
    simp [readNumber, whole, fraction, exponent, magnitude, absolute]

/-! ## Layout -/

theorem skipGap_cons {point : CodePoint} (rest : List CodePoint) (notGap : isGap point = false) :
    skipGap (point :: rest) = point :: rest := by
  simp [skipGap, notGap]

@[simp]
theorem skipGap_lineBreak (indent : Option Nat) (depth : Nat) (rest : List CodePoint) :
    skipGap (lineBreak indent depth ++ rest) = skipGap rest := by
  cases indent with
  | none => rfl
  | some width =>
      have blanks : ∀ point ∈ CodePoint.char '\n' :: List.replicate (width * depth) (.char ' '),
          isGap point := by
        intro point member
        rcases List.mem_cons.mp member with rfl | member
        · rfl
        · rw [List.eq_of_mem_replicate member]
          rfl
      rw [lineBreak, skipGap, List.dropWhile_append_of_pos blanks, skipGap]

/-- A comma is followed by white space only. -/
theorem skipGap_comma (indent : Option Nat) (depth : Nat) (rest : List CodePoint) :
    ∃ after, skipGap (comma indent depth ++ rest) = .char ',' :: after ∧
      skipGap after = skipGap rest := by
  cases indent with
  | none => exact ⟨.char ' ' :: rest, rfl, rfl⟩
  | some width => exact ⟨_, rfl, skipGap_lineBreak (some width) depth rest⟩

theorem length_comma_pos (indent : Option Nat) (depth : Nat) : 0 < (comma indent depth).length := by
  cases indent <;> simp [comma]

theorem endsNumber_comma (indent : Option Nat) (depth : Nat) (rest : List CodePoint) :
    EndsNumber (comma indent depth ++ rest) := by
  cases indent <;> exact endsNumber_cons _ rfl (by decide) (by decide) (by decide)

theorem endsNumber_lineBreak (indent : Option Nat) (depth : Nat) {rest : List CodePoint}
    (ends : EndsNumber rest) : EndsNumber (lineBreak indent depth ++ rest) := by
  cases indent with
  | none => exact ends
  | some width => exact endsNumber_cons _ rfl (by decide) (by decide) (by decide)

/-! ## Values -/

mutual

/-- Whether all numbers in a value are integers. -/
def integral : Json → Bool
  | null => true
  | bool _ => true
  | integer _ => true
  | decimal _ => false
  | text _ => true
  | list items => allIntegral items
  | object fields => fieldsIntegral fields

/-- Whether all numbers in the items of a list are integers. -/
def allIntegral : List Json → Bool
  | [] => true
  | item :: items => item.integral && allIntegral items

/-- Whether all numbers in the fields of an object are integers. -/
def fieldsIntegral : List (String × Json) → Bool
  | [] => true
  | (_, value) :: fields => value.integral && fieldsIntegral fields

end

/-- A value is written with a token in front that closes no list. -/
theorem render_eq_cons (indent : Option Nat) (depth : Nat) (value : Json)
    (whole : value.integral) :
    ∃ first others, render indent depth value = .char first :: others ∧
      isGap (.char first) = false ∧ first ≠ ']' := by
  cases value with
  | null => exact ⟨_, _, rfl, rfl, by decide⟩
  | bool value => cases value <;> exact ⟨_, _, rfl, rfl, by decide⟩
  | integer value =>
      by_cases negative : value < 0
      · exact ⟨'-', (Nat.toDigits 10 value.natAbs).map .char, by simp [render, digits, negative],
          rfl, by decide⟩
      · obtain ⟨first, others, equal, digit⟩ := toDigits_eq_cons value.natAbs
        refine ⟨first, others.map .char, by simp [render, digits, negative, equal], ?_, ?_⟩
        · cases gap : isGap (.char first) with
          | false => rfl
          | true =>
              simp only [isGap, CodePoint.char.injEq, Bool.or_eq_true, decide_eq_true_eq] at gap
              rcases gap with ((rfl | rfl) | rfl) | rfl <;> exact absurd digit (by decide)
        · rintro rfl
          exact absurd digit (by decide)
  | decimal literal => exact absurd whole (by simp [integral])
  | text value => exact ⟨'"', _, by rw [render, quoted, List.cons_append], rfl, by decide⟩
  | list items =>
      cases items with
      | nil => exact ⟨_, _, rfl, rfl, by decide⟩
      | cons item items => exact ⟨'[', _, by rw [render]; rfl, rfl, by decide⟩
  | object fields =>
      match fields with
      | [] => exact ⟨_, _, rfl, rfl, by decide⟩
      | (key, value) :: fields => exact ⟨'\x7b', _, by rw [render]; rfl, rfl, by decide⟩

/-- A value reads back wherever it stands, given fuel for its length. -/
def ReadsBack (indent : Option Nat) (depth : Nat) (value : Json) : Prop :=
  ∀ (fuel : Nat) (rest : List CodePoint), (render indent depth value).length ≤ fuel →
    EndsNumber rest → readValue fuel (render indent depth value ++ rest) = some (value, rest)

/-- A token that starts none of the other values starts a number. -/
theorem readValue_number (fuel : Nat) (first : Char) (others : List CodePoint)
    (other : first ∉ ['"', '[', '\x7b', 'n', 't', 'f']) :
    readValue (fuel + 1) (.char first :: others) = readNumber (.char first :: others) := by
  simp only [List.mem_cons, List.not_mem_nil, or_false, not_or] at other
  obtain ⟨quote, bracket, brace, n, t, f⟩ := other
  rw [readValue] <;> simp [quote, bracket, brace, n, t, f]

theorem readsBack_integer (indent : Option Nat) (depth : Nat) (value : Int) :
    ReadsBack indent depth (.integer value) := by
  intro fuel rest enough ends
  rw [← readNumber_digits value ends, render]
  rw [render] at enough
  cases fuel with
  | zero =>
      by_cases negative : value < 0
      · simp [digits, negative] at enough
      · simp [digits, negative, Nat.toDigits_ne_nil] at enough
  | succ fuel =>
      by_cases negative : value < 0
      · rw [digits, if_pos negative]
        exact readValue_number fuel '-' _ (by decide)
      · obtain ⟨first, others, equal, digit⟩ := toDigits_eq_cons value.natAbs
        rw [digits, if_neg negative, equal]
        apply readValue_number
        intro member
        simp only [List.mem_cons, List.not_mem_nil, or_false] at member
        rcases member with rfl | rfl | rfl | rfl | rfl | rfl <;> exact absurd digit (by decide)

theorem readsBack_text (indent : Option Nat) (depth : Nat) (value : CodeText) :
    ReadsBack indent depth (.text value) := by
  intro fuel rest enough ends
  cases fuel with
  | zero => simp [render, quoted] at enough
  | succ fuel =>
      have quotedText := readText_quoted value.points rest
      simp only [render, quoted, List.cons_append, List.append_assoc, List.nil_append, readValue]
      rw [quotedText]
      simp

theorem readValue_list (fuel : Nat) (chars : List CodePoint)
    (notEmpty : ∀ rest, skipGap chars ≠ .char ']' :: rest) :
    readValue (fuel + 1) (.char '[' :: chars) =
      (readItems fuel (skipGap chars)).map fun found => (.list found.1, found.2) := by
  simp only [readValue]
  cases readItems fuel (skipGap chars) <;> rfl

theorem readValue_object (fuel : Nat) (chars : List CodePoint)
    (notEmpty : ∀ rest, skipGap chars ≠ .char '\x7d' :: rest) :
    readValue (fuel + 1) (.char '\x7b' :: chars) =
      (readFields fuel (skipGap chars)).map fun found => (.object found.1, found.2) := by
  simp only [readValue]
  cases readFields fuel (skipGap chars) <;> rfl

/-- Items that read back one by one read back as the items of a list. -/
theorem readItems_render (indent : Option Nat) (depth : Nat) (item : Json) (items : List Json)
    (whole : ∀ value ∈ item :: items, value.integral)
    (readBack : ∀ value ∈ item :: items, ReadsBack indent depth value)
    {closing rest : List CodePoint} (closes : skipGap closing = .char ']' :: rest)
    (ends : EndsNumber closing) (fuel : Nat)
    (enough : (render indent depth item ++ renderItems indent depth items).length < fuel) :
    readItems fuel (render indent depth item ++ (renderItems indent depth items ++ closing)) =
      some (item :: items, rest) := by
  induction items generalizing item fuel with
  | nil =>
      cases fuel with
      | zero => simp at enough
      | succ fuel =>
          have bound : (render indent depth item).length ≤ fuel := by
            simpa [renderItems, Nat.lt_succ_iff] using enough
          have first := readBack item (by simp) fuel closing bound ends
          simp [readItems, renderItems, first, closes]
  | cons next items induction =>
      cases fuel with
      | zero => simp at enough
      | succ fuel =>
          simp only [renderItems, List.length_append] at enough
          have first := readBack item (by simp) fuel
            (comma indent depth ++ (render indent depth next ++
              (renderItems indent depth items ++ closing)))
            (by omega) (endsNumber_comma indent depth _)
          obtain ⟨after, separated, gap⟩ := skipGap_comma indent depth
            (render indent depth next ++ (renderItems indent depth items ++ closing))
          obtain ⟨c, others, equal, notGap, -⟩ :=
            render_eq_cons indent depth next (whole next (by simp))
          have start : skipGap after =
              render indent depth next ++ (renderItems indent depth items ++ closing) := by
            rw [gap, equal, List.cons_append, skipGap_cons _ notGap]
          have commaLength := length_comma_pos indent depth
          have later := induction next
            (fun value member => whole value (List.mem_cons_of_mem item member))
            (fun value member => readBack value (List.mem_cons_of_mem item member)) fuel
            (by rw [List.length_append]; omega)
          simp [readItems, renderItems, first, separated, start, later]

/-- A key, its colon and its value. -/
def renderField (indent : Option Nat) (depth : Nat) (field : String × Json) : List CodePoint :=
  quoted field.1 ++ [.char ':', .char ' '] ++ render indent depth field.2

theorem length_render_lt (indent : Option Nat) (depth : Nat) (field : String × Json) :
    (render indent depth field.2).length < (renderField indent depth field).length := by
  simp only [renderField, List.length_append, List.length_cons]
  omega

/-- A field reads back up to what follows its value. -/
theorem readFields_field (indent : Option Nat) (depth : Nat) (field : String × Json)
    (whole : field.2.integral) (fuel : Nat) (rest : List CodePoint)
    (found : readValue fuel (render indent depth field.2 ++ rest) = some (field.2, rest)) :
    readFields (fuel + 1) (renderField indent depth field ++ rest) =
      match skipGap rest with
      | .char ',' :: rest => do
          let (fields, rest) ← readFields fuel (skipGap rest)
          return (field :: fields, rest)
      | .char '\x7d' :: rest => some ([field], rest)
      | _ => none := by
  obtain ⟨key, value⟩ := field
  obtain ⟨c, others, equal, notGap, -⟩ := render_eq_cons indent depth value whole
  have start : skipGap (.char ' ' :: (render indent depth value ++ rest)) =
      render indent depth value ++ rest := by
    rw [equal, List.cons_append]
    exact skipGap_cons _ notGap
  have named : (CodeText.mk (CodeText.ofString key).points).string? = some key :=
    CodeText.string?_ofString key
  have colon : skipGap (.char ':' :: .char ' ' :: (render indent depth value ++ rest)) =
      .char ':' :: .char ' ' :: (render indent depth value ++ rest) := rfl
  simp only [renderField, quoted, List.cons_append, List.append_assoc, List.nil_append,
    readFields]
  rw [readText_quoted]
  simp only [Option.bind_eq_bind, Option.bind_some, named]
  rw [colon]
  simp only [start, found, Option.bind_some]
  rfl

/-- Fields whose values read back read back as the fields of an object. -/
theorem readFields_render (indent : Option Nat) (depth : Nat) (field : String × Json)
    (fields : List (String × Json))
    (whole : ∀ entry ∈ field :: fields, entry.2.integral)
    (readBack : ∀ entry ∈ field :: fields, ReadsBack indent depth entry.2)
    {closing rest : List CodePoint} (closes : skipGap closing = .char '\x7d' :: rest)
    (ends : EndsNumber closing) (fuel : Nat)
    (enough : (renderField indent depth field ++ renderFields indent depth fields).length < fuel) :
    readFields fuel
        (renderField indent depth field ++ (renderFields indent depth fields ++ closing)) =
      some (field :: fields, rest) := by
  induction fields generalizing field fuel with
  | nil =>
      cases fuel with
      | zero => simp at enough
      | succ fuel =>
          have valueLength := length_render_lt indent depth field
          rw [renderFields, List.append_nil] at enough
          have value := readBack field (by simp) fuel closing (by omega) ends
          rw [renderFields, List.nil_append,
            readFields_field indent depth field (whole field (by simp)) fuel closing value, closes]
          rfl
  | cons next fields induction =>
      cases fuel with
      | zero => simp at enough
      | succ fuel =>
          have unfolded : renderFields indent depth (next :: fields) ++ closing =
              comma indent depth ++ (renderField indent depth next ++
                (renderFields indent depth fields ++ closing)) := by
            simp [renderFields, renderField]
          have commaLength := length_comma_pos indent depth
          have valueLength := length_render_lt indent depth field
          have lengths := congrArg List.length unfolded
          simp only [List.length_append] at enough lengths
          have value := readBack field (by simp) fuel
            (comma indent depth ++ (renderField indent depth next ++
              (renderFields indent depth fields ++ closing)))
            (by omega) (endsNumber_comma indent depth _)
          obtain ⟨after, separated, gap⟩ := skipGap_comma indent depth
            (renderField indent depth next ++ (renderFields indent depth fields ++ closing))
          have start : skipGap after =
              renderField indent depth next ++ (renderFields indent depth fields ++ closing) := by
            rw [gap]
            exact skipGap_cons _ rfl
          have later := induction next
            (fun entry member => whole entry (List.mem_cons_of_mem field member))
            (fun entry member => readBack entry (List.mem_cons_of_mem field member)) fuel
            (by rw [List.length_append]; omega)
          rw [unfolded, readFields_field indent depth field (whole field (by simp)) fuel _ value,
            separated]
          simp [start, later]

theorem allIntegral_iff (items : List Json) :
    allIntegral items = true ↔ ∀ item ∈ items, item.integral = true := by
  induction items with
  | nil => simp [allIntegral]
  | cons item items induction => simp [allIntegral, induction]

theorem fieldsIntegral_iff (fields : List (String × Json)) :
    fieldsIntegral fields = true ↔ ∀ entry ∈ fields, entry.2.integral = true := by
  induction fields with
  | nil => simp [fieldsIntegral]
  | cons field fields induction => simp [fieldsIntegral, induction]

/-- What closes a list or an object ends a number in front of it. -/
theorem endsNumber_closing (indent : Option Nat) (depth : Nat) {bracket : Char}
    (rest : List CodePoint) (closes : bracket ∈ [']', '\x7d']) :
    EndsNumber (lineBreak indent depth ++ .char bracket :: rest) := by
  apply endsNumber_lineBreak
  simp only [List.mem_cons, List.not_mem_nil, or_false] at closes
  rcases closes with rfl | rfl <;>
    exact endsNumber_cons _ rfl (by decide) (by decide) (by decide)

theorem readsBack_list (indent : Option Nat) (depth : Nat) (items : List Json)
    (whole : ∀ item ∈ items, item.integral)
    (readBack : ∀ item ∈ items, ReadsBack indent (depth + 1) item) :
    ReadsBack indent depth (.list items) := by
  intro fuel rest enough ends
  cases fuel with
  | zero => cases items <;> simp [render] at enough
  | succ fuel =>
      cases items with
      | nil => simp [render, readValue, skipGap, isGap]
      | cons item items =>
          let closing := lineBreak indent depth ++ .char ']' :: rest
          have closes : skipGap closing = .char ']' :: rest := by
            rw [skipGap_lineBreak]
            exact skipGap_cons _ rfl
          simp only [render, List.length_append, List.length_cons, List.cons_append] at enough
          have found := readItems_render indent (depth + 1) item items whole readBack closes
            (endsNumber_closing indent depth rest (by simp)) fuel
            (by rw [List.length_append]; omega)
          obtain ⟨c, others, equal, notGap, notClosing⟩ :=
            render_eq_cons indent (depth + 1) item (whole item (by simp))
          have start : skipGap (lineBreak indent (depth + 1) ++ (render indent (depth + 1) item ++
                (renderItems indent (depth + 1) items ++ closing))) =
              render indent (depth + 1) item ++
                (renderItems indent (depth + 1) items ++ closing) := by
            rw [skipGap_lineBreak, equal, List.cons_append]
            exact skipGap_cons _ notGap
          have unfolded : render indent depth (.list (item :: items)) ++ rest =
              .char '[' :: (lineBreak indent (depth + 1) ++ (render indent (depth + 1) item ++
                (renderItems indent (depth + 1) items ++ closing))) := by
            simp [render, closing]
          rw [unfolded, readValue_list, start, found]
          · rfl
          · intro tail bracket
            rw [start, equal, List.cons_append] at bracket
            exact notClosing (CodePoint.char.inj (List.cons.inj bracket).1)

theorem readsBack_object (indent : Option Nat) (depth : Nat) (fields : List (String × Json))
    (whole : ∀ entry ∈ fields, entry.2.integral)
    (readBack : ∀ entry ∈ fields, ReadsBack indent (depth + 1) entry.2) :
    ReadsBack indent depth (.object fields) := by
  intro fuel rest enough ends
  cases fuel with
  | zero =>
      match fields with
      | [] => simp [render] at enough
      | (key, value) :: fields => simp [render] at enough
  | succ fuel =>
      cases fields with
      | nil => simp [render, readValue, skipGap, isGap]
      | cons field fields =>
          let closing := lineBreak indent depth ++ .char '\x7d' :: rest
          have closes : skipGap closing = .char '\x7d' :: rest := by
            rw [skipGap_lineBreak]
            exact skipGap_cons _ rfl
          have unfolded : render indent depth (.object (field :: fields)) ++ rest =
              .char '\x7b' :: (lineBreak indent (depth + 1) ++
                (renderField indent (depth + 1) field ++
                  (renderFields indent (depth + 1) fields ++ closing))) := by
            obtain ⟨key, value⟩ := field
            simp [render, renderField, closing]
          have lengths := congrArg List.length unfolded
          simp only [List.length_append, List.length_cons, closing] at lengths
          have found := readFields_render indent (depth + 1) field fields whole readBack closes
            (endsNumber_closing indent depth rest (by simp)) fuel
            (by rw [List.length_append]; omega)
          have start : skipGap (lineBreak indent (depth + 1) ++
                (renderField indent (depth + 1) field ++
                  (renderFields indent (depth + 1) fields ++ closing))) =
              renderField indent (depth + 1) field ++
                (renderFields indent (depth + 1) fields ++ closing) := by
            rw [skipGap_lineBreak]
            exact skipGap_cons _ rfl
          rw [unfolded, readValue_object, start, found]
          · rfl
          · intro tail brace
            rw [start] at brace
            exact absurd (List.cons.inj brace).1 (by decide)

mutual

/-- Every value whose numbers are integers reads back, in every layout and at every depth. -/
theorem readsBack (value : Json) (whole : value.integral) (indent : Option Nat) (depth : Nat) :
    ReadsBack indent depth value := by
  cases value with
  | null =>
      intro fuel rest enough ends
      cases fuel with
      | zero => simp [render] at enough
      | succ fuel => simp [render, readValue, expect?]
  | bool value =>
      intro fuel rest enough ends
      cases fuel with
      | zero => cases value <;> simp [render] at enough
      | succ fuel => cases value <;> simp [render, readValue, expect?]
  | integer value => exact readsBack_integer indent depth value
  | decimal literal => exact absurd whole (by simp [integral])
  | text value => exact readsBack_text indent depth value
  | list items =>
      rw [integral] at whole
      exact readsBack_list indent depth items ((allIntegral_iff items).mp whole)
        (allReadBack items whole indent (depth + 1))
  | object fields =>
      rw [integral] at whole
      exact readsBack_object indent depth fields ((fieldsIntegral_iff fields).mp whole)
        (fieldsReadBack fields whole indent (depth + 1))

theorem allReadBack (items : List Json) (whole : allIntegral items) (indent : Option Nat)
    (depth : Nat) : ∀ item ∈ items, ReadsBack indent depth item := by
  cases items with
  | nil => simp
  | cons item items =>
      rw [allIntegral, Bool.and_eq_true] at whole
      exact List.forall_mem_cons.mpr
        ⟨readsBack item whole.1 indent depth, allReadBack items whole.2 indent depth⟩

theorem fieldsReadBack (fields : List (String × Json)) (whole : fieldsIntegral fields)
    (indent : Option Nat) (depth : Nat) :
    ∀ entry ∈ fields, ReadsBack indent depth entry.2 := by
  match fields, whole with
  | [], _ => simp
  | (key, value) :: fields, whole =>
      rw [fieldsIntegral, Bool.and_eq_true] at whole
      exact List.forall_mem_cons.mpr
        ⟨readsBack value whole.1 indent depth, fieldsReadBack fields whole.2 indent depth⟩

end

/-- A printed value reads back as itself, whatever the indentation. -/
theorem read?_print (indent : Option Nat) (value : Json) (whole : value.integral) :
    read? (value.print indent) = some value := by
  obtain ⟨c, others, equal, notGap, -⟩ := render_eq_cons indent 0 value whole
  have start : skipGap (render indent 0 value) = render indent 0 value := by
    rw [equal]
    exact skipGap_cons _ notGap
  have found := readsBack value whole indent 0 ((render indent 0 value).length + 1) []
    (Nat.le_succ _) endsNumber_nil
  rw [List.append_nil] at found
  simp only [read?, print, start, found]
  rfl

/-! ## One line -/

/-- No code point of a text is a control character below the space. -/
def Printed (points : List CodePoint) : Prop :=
  ∀ point ∈ points, 32 ≤ point.code

instance (points : List CodePoint) : Decidable (Printed points) :=
  List.decidableBAll (fun point : CodePoint => 32 ≤ point.code) points

theorem printed_nil : Printed [] := by simp [Printed]

theorem printed_cons {point : CodePoint} {points : List CodePoint} :
    Printed (point :: points) ↔ 32 ≤ point.code ∧ Printed points :=
  List.forall_mem_cons

theorem printed_append {front back : List CodePoint} :
    Printed (front ++ back) ↔ Printed front ∧ Printed back :=
  List.forall_mem_append

theorem printed_chars {chars : List Char} (each : ∀ c ∈ chars, 32 ≤ c.toNat) :
    Printed (chars.map .char) := by
  intro point member
  obtain ⟨c, inChars, rfl⟩ := List.mem_map.mp member
  exact each c inChars

theorem printed_hexDigit (value : Nat) : 32 ≤ (hexDigit value).toNat := by
  have digits : ∀ digit < 16, 32 ≤ (Nat.digitChar digit).toNat := by decide
  exact digits (value % 16) (Nat.mod_lt value (by decide))

/-- Escaping leaves no control character, whatever the code point is. -/
theorem printed_escapePoint (point : CodePoint) : Printed (escapePoint point) := by
  cases point with
  | lone half =>
      exact printed_cons.mpr ⟨Nat.le_trans (by decide) (Nat.le_add_right 0xD800 half), printed_nil⟩
  | char c =>
      rw [escapePoint, escape]
      split_ifs with quote backslash feed carriage tab back form control
      · decide
      · decide
      · decide
      · decide
      · decide
      · decide
      · decide
      · apply printed_chars
        simp only [List.forall_mem_cons]
        exact ⟨by decide, by decide, by decide, by decide, printed_hexDigit _,
          printed_hexDigit _, by simp⟩
      · exact printed_cons.mpr ⟨Nat.le_of_not_lt control, printed_nil⟩

theorem printed_quoted (text : CodeText) : Printed (quoted text) := by
  have escaped : Printed (text.points.flatMap escapePoint) := by
    intro point member
    obtain ⟨source, -, inEscape⟩ := List.mem_flatMap.mp member
    exact printed_escapePoint source point inEscape
  rw [quoted, List.cons_append, printed_cons, printed_append]
  exact ⟨by decide, escaped, by decide⟩

theorem printed_digits (value : Int) : Printed ((digits value).map .char) := by
  have magnitude : ∀ c ∈ Nat.toDigits 10 value.natAbs, 32 ≤ c.toNat := by
    intro c member
    have digit := Nat.isDigit_of_mem_toDigits (by decide) (by decide) member
    simp only [Char.isDigit, Bool.and_eq_true, decide_eq_true_eq] at digit
    have lower : 48 ≤ c.toNat := digit.1
    omega
  apply printed_chars
  unfold digits
  split_ifs
  · exact List.forall_mem_cons.mpr ⟨by decide, magnitude⟩
  · exact magnitude

mutual

/-- On one line every character of a value is printed. -/
theorem printed_render (value : Json) (whole : value.integral) (depth : Nat) :
    Printed (render none depth value) := by
  cases value with
  | null => rw [render]; decide
  | bool value => cases value <;> (rw [render]; decide)
  | integer value => rw [render]; exact printed_digits value
  | decimal literal => exact absurd whole (by simp [integral])
  | text value => rw [render]; exact printed_quoted value
  | list items =>
      cases items with
      | nil => rw [render]; decide
      | cons item items =>
          rw [integral, allIntegral, Bool.and_eq_true] at whole
          have first := printed_render item whole.1 (depth + 1)
          have later := printed_renderItems items whole.2 (depth + 1)
          simp [render, lineBreak, CodePoint.code, printed_cons, printed_append, first, later,
            printed_nil]
  | object fields =>
      match fields, whole with
      | [], _ => rw [render]; decide
      | (key, value) :: fields, whole =>
          rw [integral, fieldsIntegral, Bool.and_eq_true] at whole
          have first := printed_render value whole.1 (depth + 1)
          have later := printed_renderFields fields whole.2 (depth + 1)
          simp [render, lineBreak, CodePoint.code, printed_cons, printed_append, printed_quoted key,
            first, later, printed_nil]

theorem printed_renderItems (items : List Json) (whole : allIntegral items) (depth : Nat) :
    Printed (renderItems none depth items) := by
  cases items with
  | nil => exact printed_nil
  | cons item items =>
      rw [allIntegral, Bool.and_eq_true] at whole
      have first := printed_render item whole.1 depth
      have later := printed_renderItems items whole.2 depth
      simp [renderItems, comma, CodePoint.code, printed_cons, first, later, printed_append]

theorem printed_renderFields (fields : List (String × Json)) (whole : fieldsIntegral fields)
    (depth : Nat) : Printed (renderFields none depth fields) := by
  match fields, whole with
  | [], _ => exact printed_nil
  | (key, value) :: fields, whole =>
      rw [fieldsIntegral, Bool.and_eq_true] at whole
      have first := printed_render value whole.1 depth
      have later := printed_renderFields fields whole.2 depth
      simp [renderFields, comma, CodePoint.code, printed_cons, printed_append, printed_quoted key,
        first, later]

end

end Json
end CardPress
