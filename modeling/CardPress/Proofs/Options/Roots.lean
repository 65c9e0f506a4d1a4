import CardPress.Proofs.Options.FrontMatter

/-!
# Roots of options

A text of options denotes one value, its root.  The entries of a mapping are laid over the options,
a root that counts as nothing leaves them as they are, and every other root is refused.  An empty
text denotes null, which counts as nothing; so do false, the zeros, and texts and collections
without content, although none of them is a mapping.
-/

namespace CardPress

/-! ## Values that count as nothing -/

/-- A value that counts as nothing without being null or a mapping. -/
inductive Yaml.Value.Hollow : Yaml.Value → Prop where
  | false : Hollow (.bool false)
  | integer : Hollow (.integer 0)
  | real (negative : Bool) (exponent : Int) : Hollow (.real (.finite negative 0 exponent))
  | text : Hollow (.text "")
  | binary : Hollow (.binary [])
  | list : Hollow (.list [])
  | pairs : Hollow (.pairs [])
  | set : Hollow (.set [])

theorem Yaml.Value.isVoid_of_hollow {value : Yaml.Value} (hollow : value.Hollow) :
    value.isVoid = true := by
  cases hollow <;> rfl

theorem Binary64.exists_of_isZero {number : Binary64} (zero : number.isZero = true) :
    ∃ negative exponent, number = .finite negative 0 exponent := by
  cases number with
  | finite negative significand exponent =>
      cases significand with
      | zero => exact ⟨negative, exponent, rfl⟩
      | succ => cases zero
  | _ => cases zero

/-- What counts as nothing is null, the empty mapping, or hollow. -/
theorem Yaml.Value.isVoid_iff {value : Yaml.Value} :
    value.isVoid = true ↔ value = .null ∨ value = .mapping [] ∨ value.Hollow := by
  constructor
  · intro void
    cases value with
    | null => exact .inl rfl
    | bool truth =>
        cases truth with
        | false => exact .inr (.inr .false)
        | true => cases void
    | integer number =>
        obtain rfl : number = 0 := by simpa [isVoid] using void
        exact .inr (.inr .integer)
    | real number =>
        obtain ⟨negative, exponent, rfl⟩ := Binary64.exists_of_isZero void
        exact .inr (.inr (.real negative exponent))
    | text word =>
        obtain ⟨points⟩ := word
        obtain rfl := List.isEmpty_iff.mp void
        exact .inr (.inr .text)
    | binary bytes =>
        obtain rfl := List.isEmpty_iff.mp void
        exact .inr (.inr .binary)
    | list items =>
        obtain rfl := List.isEmpty_iff.mp void
        exact .inr (.inr .list)
    | mapping entries =>
        obtain rfl := List.isEmpty_iff.mp void
        exact .inr (.inl rfl)
    | pairs entries =>
        obtain rfl := List.isEmpty_iff.mp void
        exact .inr (.inr .pairs)
    | set items =>
        obtain rfl := List.isEmpty_iff.mp void
        exact .inr (.inr .set)
    | day date => cases void
    | moment moment => cases void
    | cycle mapping => cases void
  · rintro (rfl | rfl | hollow)
    · rfl
    · rfl
    · exact isVoid_of_hollow hollow

/-! ## Reports of roots and of entries -/

/-- The report of a root that is refused. -/
def rootMessage : String :=
  "YAML root must be a mapping of card options."

theorem head?_tooLongMessage : tooLongMessage.toList.head? = some 'E' := by
  unfold tooLongMessage
  generalize toString Yaml.digitLimit = limit
  simp

/-- The report of an entry starts like that of a setting, or like that of a long integer. -/
theorem OptionFault.head?_message (fault : OptionFault) :
    fault.message.toList.head? = some 'O' ∨ fault.message.toList.head? = some 'E' := by
  have report (front : String) (value : Yaml.Value) (back : String)
      (starts : front.toList.head? = some 'O') :
      (reportOf front value back).toList.head? = some 'O' ∨
        (reportOf front value back).toList.head? = some 'E' := by
    unfold reportOf
    split
    · exact .inr head?_tooLongMessage
    · simp [starts]
  cases fault with
  | indent value => exact report _ value _ rfl
  | numericVersion value => exact report _ value _ rfl
  | notText setting value => exact report _ value _ (by simp)
  | tooLong => exact .inr head?_tooLongMessage

theorem OptionFault.message_ne_rootMessage (fault : OptionFault) :
    fault.message ≠ rootMessage := by
  intro same
  have starts := fault.head?_message
  rw [same] at starts
  exact absurd starts (by decide)

/-! ## Collections -/

namespace Yaml.Value

/-- The items of a list. -/
def items? : Yaml.Value → Option (List Yaml.Value)
  | .list items => some items
  | _ => none

/-- The entries of a mapping. -/
def entries? : Yaml.Value → Option (List (Yaml.Value × Yaml.Value))
  | .mapping entries => some entries
  | _ => none

theorem items?_eq_some {value : Yaml.Value} {items : List Yaml.Value} :
    value.items? = some items ↔ value = .list items := by
  cases value with
  | list => simp [items?]
  | _ => simp [items?]

theorem entries?_eq_some {value : Yaml.Value} {entries : List (Yaml.Value × Yaml.Value)} :
    value.entries? = some entries ↔ value = .mapping entries := by
  cases value with
  | mapping => simp [entries?]
  | _ => simp [entries?]

end Yaml.Value

/-! ## What becomes of a root -/

namespace CardOptions

section root

variable {host : Host} {text : String} {value : Yaml.Value}
  (loads : Yaml.load host text = .ok value) (base : CardOptions)

include loads

/-- A root that counts as nothing leaves the options as they are. -/
theorem overlayText_of_isVoid (void : value.isVoid = true) :
    base.overlayText host text = .ok base := by
  have none_found : optionEntries host text = .ok [] := by
    cases value with
    | mapping entries =>
        obtain rfl := List.isEmpty_iff.mp void
        simp [optionEntries, loads]
    | _ => simp [optionEntries, loads, void]
  rw [overlayText_eq, none_found]
  rfl

/-- A root that is neither a mapping nor counts as nothing is refused. -/
theorem overlayText_of_other (other : ∀ entries, value ≠ .mapping entries)
    (filled : value.isVoid = false) : base.overlayText host text = .error .root := by
  have refused : optionEntries host text = .error .root := by
    cases value with
    | mapping entries => exact absurd rfl (other entries)
    | _ => simp [optionEntries, loads, filled]
  rw [overlayText_eq, refused]
  rfl

/-- The report about the root comes exactly for roots that are neither a mapping nor count as
nothing. -/
theorem reports_root :
    (∃ error, base.overlayText host text = .error error ∧ error.message? = some rootMessage) ↔
      (∀ entries, value ≠ .mapping entries) ∧ value.isVoid = false := by
  constructor
  · rintro ⟨error, refused, report⟩
    constructor
    · rintro entries rfl
      rw [overlayText_of_load loads] at refused
      cases laid : base.overlay entries with
      | ok settings =>
          rw [laid] at refused
          cases refused
      | error fault =>
          rw [laid] at refused
          cases refused
          exact absurd (Option.some.inj report) fault.message_ne_rootMessage
    · by_contra void
      rw [overlayText_of_isVoid loads base (by simpa using void)] at refused
      cases refused
  · rintro ⟨other, filled⟩
    exact ⟨.root, overlayText_of_other loads base other filled, rfl⟩

end root

/-- What becomes of a text of options, by its root.  A root is refused, with a report that asks for
a mapping, exactly when it is neither a mapping nor null nor a value that counts as nothing like
false, zero or an empty list.  Null, the empty mapping and the values that count as nothing leave
the options as they are, and any mapping is laid over them. -/
theorem overlayText_root {host : Host} {text : String} {value : Yaml.Value}
    (loads : Yaml.load host text = .ok value) (base : CardOptions) :
    ((∃ error, base.overlayText host text = .error error ∧
        error.message? = some "YAML root must be a mapping of card options.") ↔
        value ≠ .null ∧ (∀ entries, value ≠ .mapping entries) ∧ ¬value.Hollow) ∧
      (value = .null ∨ value = .mapping [] ∨ value.Hollow → base.overlayText host text = .ok base) ∧
      ∀ entries, value = .mapping entries →
        base.overlayText host text = (base.overlay entries).mapError .value := by
  refine ⟨(reports_root loads base).trans ?_, fun void => ?_, ?_⟩
  · rw [← Bool.not_eq_true, Yaml.Value.isVoid_iff, not_or, not_or]
    constructor
    · rintro ⟨other, present, -, solid⟩
      exact ⟨present, other, solid⟩
    · rintro ⟨present, other, solid⟩
      exact ⟨other, present, other [], solid⟩
  · exact overlayText_of_isVoid loads base (Yaml.Value.isVoid_iff.mpr void)
  · rintro entries rfl
    exact overlayText_of_load loads base

/-- The roots of three texts: a list without items, a list with one, and a mapping. -/
theorem load_roots :
    Yaml.load .plain "[]" = .ok (.list []) ∧ (∃ item, Yaml.load .plain "- a" = .ok (.list [item])) ∧
      ∃ entry, Yaml.load .plain "lang: de" = .ok (.mapping [entry]) := by
  have sizes :
      ((Yaml.load .plain "[]").toOption.bind Yaml.Value.items?).map List.length = some 0 ∧
        ((Yaml.load .plain "- a").toOption.bind Yaml.Value.items?).map List.length = some 1 ∧
        ((Yaml.load .plain "lang: de").toOption.bind Yaml.Value.entries?).map List.length =
          some 1 := by
    decide +kernel
  simp only [Option.map_eq_some_iff, Option.bind_eq_some_iff, toOption_eq_some,
    Yaml.Value.items?_eq_some, Yaml.Value.entries?_eq_some, exists_eq_right] at sizes
  obtain ⟨⟨none, empty, size⟩, ⟨items, filled, one⟩, entries, mapping, single⟩ := sizes
  obtain rfl := List.length_eq_zero_iff.mp size
  obtain ⟨item, rfl⟩ := List.length_eq_one_iff.mp one
  obtain ⟨entry, rfl⟩ := List.length_eq_one_iff.mp single
  exact ⟨empty, ⟨item, filled⟩, entry, mapping⟩

/-- A list with an item is refused, a list without items is passed over like an empty text, and a
mapping is laid over the options. -/
theorem overlayText_root_three :
    (∃ error, ({} : CardOptions).overlayText .plain "- a" = .error error ∧
        error.message? = some "YAML root must be a mapping of card options.") ∧
      ({} : CardOptions).overlayText .plain "[]" = .ok {} ∧
      ({} : CardOptions).overlayText .plain "" = .ok {} ∧
      ∃ entry, Yaml.load .plain "lang: de" = .ok (.mapping [entry]) ∧
        ({} : CardOptions).overlayText .plain "lang: de" =
          (({} : CardOptions).overlay [entry]).mapError .value := by
  obtain ⟨empty, ⟨item, filled⟩, entry, mapping⟩ := load_roots
  have nothing : Yaml.load .plain "" = .ok .null := rfl
  refine ⟨(overlayText_root filled {}).1.mpr ⟨by simp, by simp, ?_⟩,
    (overlayText_root empty {}).2.1 (.inr (.inr .list)),
    (overlayText_root nothing {}).2.1 (.inl rfl), entry, mapping,
    (overlayText_root mapping {}).2.2 _ rfl⟩
  rintro ⟨⟩

/-- A list without items is neither null nor a mapping, and still it is not refused. -/
theorem overlayText_emptyList :
    ∃ value, Yaml.load .plain "[]" = .ok value ∧ value ≠ .null ∧
      (∀ entries, value ≠ .mapping entries) ∧
      ({} : CardOptions).overlayText .plain "[]" = .ok {} := by
  have empty := load_roots.1
  exact ⟨.list [], empty, by simp, by simp, overlayText_of_isVoid empty {} rfl⟩

end CardOptions

end CardPress
