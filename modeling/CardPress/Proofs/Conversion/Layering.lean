import CardPress.Convert
import CardPress.Proofs.Fallible
import CardPress.Proofs.Options.Layers

/-!
# Options of a conversion

The options that a text is converted with decide about the settings of its card and about nothing
else.  Whether there is a card, what its body is, and why there is none are settled by the text: its
front matter is refused or laid over the options whatever they are, and its blocks are rendered
without them.
-/

namespace CardPress

variable {host : Host}

/-! ## What a text asks for -/

/-- The entries that a document lays over options. -/
def Document.entries (document : Document) (host : Host) : Except OptionsError (List OptionEntry) :=
  match document.frontMatter with
  | some text => if text.isEmpty then .ok [] else optionEntries host text
  | none => .ok []

theorem Document.options_eq (host : Host) (document : Document) (options : CardOptions) :
    document.options host options =
      document.entries host >>= fun entries => (options.overlay entries).mapError .value := by
  cases kept : document.frontMatter with
  | none =>
      simp only [Document.options, entries, kept]
      rfl
  | some text =>
      by_cases empty : text.isEmpty
      · simp only [Document.options, entries, kept, if_pos empty]
        rfl
      · simp only [Document.options, entries, kept, if_neg empty, options.overlayText_eq host]

section outcome

variable {options settings : CardOptions} {text : String}

theorem convert_eq (host : Host) (options : CardOptions) (text : String) :
    convert host options text = do
      let document ← (Document.parse host text).mapError .page
      let settings ← (document.entries host >>= fun entries =>
        (options.overlay entries).mapError .value).mapError .options
      let body ← (renderBody document.blocks).mapError .unsupported
      return (settings.card body, settings) := by
  simp only [convert, Document.options_eq]

/-- A text is converted when it is read as a document whose entries are laid over the options and
whose blocks are rendered. -/
theorem convert_eq_ok {card : Card} :
    convert host options text = .ok (card, settings) ↔
      ∃ document entries body, Document.parse host text = .ok document ∧
        document.entries host = .ok entries ∧ options.overlay entries = .ok settings ∧
        renderBody document.blocks = .ok body ∧ card = settings.card body := by
  simp only [convert, Document.options_eq, bind_eq_ok, mapError_eq_ok, pure, Except.pure,
    Except.ok.injEq, Prod.mk.injEq]
  constructor
  · rintro ⟨document, read, _, ⟨entries, found, laid⟩, body, rendered, rfl, rfl⟩
    exact ⟨document, entries, body, read, found, laid, rendered, rfl⟩
  · rintro ⟨document, entries, body, read, found, laid, rendered, rfl⟩
    exact ⟨document, read, settings, ⟨entries, found, laid⟩, body, rendered, rfl, rfl⟩

/-- A text is not converted when it is not read as a document, when its entries are not found or
one of them is not admitted, or when one of its blocks is not rendered. -/
theorem convert_eq_error {error : ConversionError} :
    convert host options text = .error error ↔
      (∃ cause, Document.parse host text = .error cause ∧ error = .page cause) ∨
        ∃ document, Document.parse host text = .ok document ∧
          ((∃ cause, document.entries host = .error cause ∧ error = .options cause) ∨
            ∃ entries, document.entries host = .ok entries ∧
              ((∃ entry, entries.find? (!·.isAdmitted) = some entry ∧
                  error = .options (.value entry.refusal)) ∨
                entries.find? (!·.isAdmitted) = none ∧
                  ∃ node, renderBody document.blocks = .error node ∧
                    error = .unsupported node)) := by
  cases read : Document.parse host text with
  | error cause =>
      have ends : convert host options text = .error (.page cause) := by
        simp only [convert_eq, read]
        rfl
      simp [ends, eq_comm]
  | ok document =>
      cases found : document.entries host with
      | error cause =>
          have ends : convert host options text = .error (.options cause) := by
            simp only [convert_eq, read, mapError_ok, mapError_error, bind, Except.bind, found]
          simp [ends, found, eq_comm]
      | ok entries =>
          cases laid : options.overlay entries with
          | error fault =>
              have ends : convert host options text = .error (.options (.value fault)) := by
                simp only [convert_eq, read, mapError_ok, mapError_error, bind, Except.bind, found,
                  laid]
              obtain ⟨entry, first, rfl⟩ := (options.overlay_eq_error entries fault).mp laid
              simp [ends, found, first, eq_comm, -Prod.exists]
          | ok settings =>
              have admitted : entries.find? (!·.isAdmitted) = none := by
                cases first : entries.find? (!·.isAdmitted) with
                | none => rfl
                | some entry =>
                    have refused := (options.overlay_eq_error entries _).mpr ⟨entry, first, rfl⟩
                    rw [laid] at refused
                    cases refused
              cases rendered : renderBody document.blocks with
              | error node =>
                  have ends : convert host options text = .error (.unsupported node) := by
                    simp only [convert_eq, read, mapError_ok, mapError_error, bind, Except.bind,
                      found, laid, rendered]
                  simp [ends, found, admitted, rendered, eq_comm]
              | ok body =>
                  have ends : convert host options text = .ok (settings.card body, settings) := by
                    simp only [convert_eq, read, mapError_ok, bind, Except.bind, found, laid,
                      rendered]
                    rfl
                  simp [ends, found, admitted, rendered]

end outcome

/-- Options decide about the settings of a card and about nothing else.  Two conversions of one text
succeed or fail together, with the same cause whatever the options are, and have the same body.  The
settings of a card are those of the options under the entries of the document, and its JSON text is
indented as they say. -/
theorem convert_layered (host : Host) (first second : Option CardOptions) (text : String) :
    ((∃ result, convert host (first.getD {}) text = .ok result) ↔
        ∃ result, convert host (second.getD {}) text = .ok result) ∧
      (∀ error, convert host (first.getD {}) text = .error error ↔
        convert host (second.getD {}) text = .error error) ∧
      (∀ card settings other others, convert host (first.getD {}) text = .ok (card, settings) →
        convert host (second.getD {}) text = .ok (other, others) → card.body = other.body) ∧
      ∀ (given : Option CardOptions) (card : Card) (settings : CardOptions),
        convert host (given.getD {}) text = .ok (card, settings) →
          ∃ document entries, Document.parse host text = .ok document ∧
            document.entries host = .ok entries ∧ (given.getD {}).overlay entries = .ok settings ∧
            card.version = settings.version ∧ card.schema = settings.schema ∧
            card.lang = settings.lang ∧ card.fallbackText = settings.fallbackText ∧
            convertToJson host (given.getD {}) text = card.serialize? host settings.indent := by
  have fails (error : ConversionError) : convert host (first.getD {}) text = .error error ↔
      convert host (second.getD {}) text = .error error :=
    convert_eq_error.trans convert_eq_error.symm
  refine ⟨?_, fails, fun card settings other others => ?_, fun given card settings converted => ?_⟩
  · rw [exists_eq_ok, exists_eq_ok]
    simp only [fails]
  · rw [convert_eq_ok, convert_eq_ok]
    rintro ⟨document, _, body, read, -, -, rendered, rfl⟩ ⟨_, _, _, read', -, -, rendered', rfl⟩
    rw [read] at read'
    cases read'
    rw [rendered] at rendered'
    exact Except.ok.inj rendered'
  · obtain ⟨document, entries, body, read, found, laid, -, rfl⟩ := convert_eq_ok.mp converted
    refine ⟨document, entries, read, found, laid, rfl, rfl, rfl, rfl, ?_⟩
    rw [convertToJson, converted]
    rfl

/-- A page that names its language and its indentation. -/
def namedPage : String :=
  "---\nlang: de\nindent: 0\n---\n**A**\n"

/-- Options of another version and language, with everything on one line. -/
def oneLineOptions : CardOptions :=
  { version := "1.6", lang := some "en", indent := none }

/-- Both cards have the body, the language and the indentation of the page, and each has the version
of its own options. -/
theorem convert_layered_named :
    ∃ card settings other others, convert .plain {} namedPage = .ok (card, settings) ∧
      convert .plain oneLineOptions namedPage = .ok (other, others) ∧ card.body = other.body ∧
      (card.version, card.lang) = (.ofString "1.5", some (.ofString "de")) ∧
      (other.version, other.lang) = (.ofString "1.6", some (.ofString "de")) ∧
      convertToJson .plain oneLineOptions namedPage = other.serialize? .plain (some 0) := by
  have first : (convert .plain {} namedPage).toOption.map Prod.snd =
      some { lang := some "de", indent := some 0 } := by
    decide +kernel
  have second : (convert .plain oneLineOptions namedPage).toOption.map Prod.snd =
      some { version := "1.6", lang := some "de", indent := some 0 } := by
    decide +kernel
  obtain ⟨⟨card, settings⟩, converted, given⟩ := Option.map_eq_some_iff.mp first
  obtain ⟨⟨other, others⟩, converted', given'⟩ := Option.map_eq_some_iff.mp second
  rw [toOption_eq_some] at converted converted'
  obtain ⟨-, -, bodies, layers⟩ := convert_layered .plain none (some oneLineOptions) namedPage
  obtain ⟨-, -, -, -, -, version, -, lang, -, -⟩ := layers none card settings converted
  obtain ⟨-, -, -, -, -, version', -, lang', -, json⟩ :=
    layers (some oneLineOptions) other others converted'
  cases given
  cases given'
  exact ⟨card, _, other, _, converted, converted', bodies _ _ _ _ converted converted',
    by rw [version, lang], by rw [version', lang'], json⟩

end CardPress
