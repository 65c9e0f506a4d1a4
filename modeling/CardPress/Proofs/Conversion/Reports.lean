import CardPress.Proofs.Conversion.Layering
import CardPress.Proofs.Options.FrontMatter

/-!
# Reports of conversions

A text that is not converted is answered with a report of the cause, which the first character of
the answer tells from a card.  A few causes have no report, so that there is no answer: values in
the front matter that denote nothing in a way that nobody expects, and indentations that the host
has no room for.
-/

namespace CardPress

variable {host : Host}

/-! ## Causes without a report -/

/-- The failures of a well-formed text of options that have no report. -/
def Yaml.Failure.unreported : List Yaml.Failure :=
  [.codePoint true, .truthValue, .moment, .emptyNumber, .tooManyPlaces, .mappedMoment, .endless]

section outcome

variable {options : CardOptions} {text : String} {error : ConversionError}

/-- A card has no text when there is no room for its indentation, and otherwise has the text with
that indentation. -/
theorem serialize?_cases (host : Host) (card : Card) (indent : Option Nat) :
    (card.serialize? host indent = .ok (card.serialize indent) ∧
        ∀ width, indent = some width → host.hasRoom card.toJson width = true) ∨
      ∃ width, indent = some width ∧ host.hasRoom card.toJson width = false ∧
        card.serialize? host indent = .error (.indent (width < Nat.pow 2 63)) := by
  cases indent with
  | none => exact .inl ⟨rfl, by simp⟩
  | some width =>
      cases room : host.hasRoom card.toJson width with
      | true => exact .inl ⟨by simp [Card.serialize?, room], by simp [room]⟩
      | false => exact .inr ⟨width, rfl, room, by simp [Card.serialize?, room]⟩

end outcome

/-! ## Cards and reports -/

section outcome

variable {options : CardOptions} {text : String}

end outcome

end CardPress
