import CardPress.Text.Quoted

/-!
# Code points

A text as a list of code points.  Besides the characters there are the halves of surrogate pairs,
which stand alone in a text that has been written with escapes for them.  Such a text has no bytes.
-/

namespace CardPress

/-- A character, or a half of a surrogate pair that stands alone. -/
inductive CodePoint where
  | char (c : Char)
  | lone (half : Fin 0x800)
  deriving DecidableEq, Repr, Inhabited

namespace CodePoint

/-- The number of a code point. -/
def code : CodePoint → Nat
  | char c => c.toNat
  | lone half => 0xD800 + half

/-- The code point with a number that is not above the last one. -/
def ofNat (code : Nat) : CodePoint :=
  if 0xD800 ≤ code ∧ code < 0xE000 then lone (Fin.ofNat 0x800 (code - 0xD800))
  else char (Char.ofNat code)

/-- A code point that is a character. -/
def char? : CodePoint → Option Char
  | char c => some c
  | lone _ => none

/-- A code point as it stands between the quotes `quote`. -/
def quoted (quote : Char) : CodePoint → List Char
  | char c => Text.quoteChar quote c
  | lone half => '\\' :: 'u' :: Text.hex 4 (0xD800 + half)

end CodePoint

/-- A text of code points. -/
structure CodeText where
  points : List CodePoint
  deriving DecidableEq, Repr, Inhabited

namespace CodeText

/-- A text of characters. -/
def ofString (text : String) : CodeText :=
  ⟨text.toList.map .char⟩

instance : Coe String CodeText := ⟨ofString⟩

instance : Append CodeText := ⟨fun front back => ⟨front.points ++ back.points⟩⟩

/-- Whether a text has no code points. -/
def isEmpty (text : CodeText) : Bool :=
  text.points.isEmpty

/-- A text that only has characters. -/
def string? (text : CodeText) : Option String :=
  (text.points.mapM CodePoint.char?).map String.ofList

/-- A text between quotes. -/
def quoted (text : CodeText) : String :=
  let quote := Text.quoteFor (text.points.filterMap CodePoint.char?)
  String.ofList (quote :: text.points.flatMap (CodePoint.quoted quote) ++ [quote])

@[simp]
theorem points_ofString (text : String) : (ofString text).points = text.toList.map .char := rfl

@[simp]
theorem points_append (front back : CodeText) :
    (front ++ back).points = front.points ++ back.points := rfl

theorem ofString_append (front back : String) :
    ofString (front ++ back) = ofString front ++ ofString back := by
  rw [ofString, String.toList_append, List.map_append]
  rfl

theorem append_right_cancel {front other back : CodeText} (same : front ++ back = other ++ back) :
    front = other := by
  have points := congrArg CodeText.points same
  rw [points_append, points_append, List.append_cancel_right_eq] at points
  exact congrArg CodeText.mk points

/-- A text only has characters when it is a text of characters. -/
theorem string?_eq_some {text : CodeText} {string : String} :
    text.string? = some string ↔ text = ofString string := by
  obtain ⟨points⟩ := text
  have chars (points : List CodePoint) (found : List Char) :
      points.mapM CodePoint.char? = some found ↔ points = found.map .char := by
    induction points generalizing found with
    | nil => cases found <;> simp
    | cons point points induction =>
        cases point with
        | lone half => cases found <;> simp [CodePoint.char?]
        | char c =>
            cases found with
            | nil => simp [CodePoint.char?, Option.bind_eq_some_iff]
            | cons d found =>
                simp [CodePoint.char?, Option.bind_eq_some_iff, induction, and_comm, and_assoc]
  simp [string?, ofString, chars, String.ext_iff, eq_comm]

@[simp]
theorem string?_ofString (text : String) : (ofString text).string? = some text :=
  string?_eq_some.mpr rfl

theorem ofString_injective {text other : String} (same : ofString text = ofString other) :
    text = other := by
  have read := congrArg string? same
  rwa [string?_ofString, string?_ofString, Option.some.injEq] at read

@[simp]
theorem ofString_inj {text other : String} : ofString text = ofString other ↔ text = other :=
  ⟨ofString_injective, congrArg ofString⟩

end CodeText
end CardPress
