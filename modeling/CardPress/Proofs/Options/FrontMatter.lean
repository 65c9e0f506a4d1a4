import CardPress.Convert
import CardPress.Proofs.Document.FrontMatter
import CardPress.Proofs.Fallible
import CardPress.Proofs.Options.Layers
import CardPress.Proofs.Yaml.PowerKey

/-!
# Front matter as options

Whether front matter is kept and whether it can be laid over options is decided in different places,
from the same text.  They agree: front matter that is kept is a mapping or malformed, and is never
empty, so that its entries are laid over the options or the first fault in it is reported.  A text
without front matter leaves the options as they are.
-/

namespace CardPress

variable {host : Host}

/-- The entries of a text that denotes a mapping are laid over the options. -/
theorem CardOptions.overlayText_of_load {content : String} {entries : List OptionEntry}
    (loads : Yaml.load host content = .ok (.mapping entries)) (options : CardOptions) :
    options.overlayText host content = (options.overlay entries).mapError .value := by
  have found : optionEntries host content = .ok entries := by
    simp [optionEntries, loads]
  rw [overlayText_eq, found]
  rfl

namespace HoldsOptions

variable {content : String}

theorem ne_empty (holds : HoldsOptions host content) : content ≠ "" := by
  rintro rfl
  have unkept : isFrontMatter host "" = .ok false := rfl
  cases (isFrontMatter_eq_true.mpr holds).symm.trans unkept

/-- Laying front matter over options ends in one of three ways, whatever the options are. -/
theorem overlayText_cases (holds : HoldsOptions host content) (options : CardOptions) :
    (∃ settings, options.overlayText host content = .ok settings) ∨
      options.overlayText host content = .error (.malformed (host.describe content)) ∨
      ∃ (entries : List OptionEntry) (entry : OptionEntry),
        Yaml.load host content = .ok (.mapping entries) ∧
          entries.find? (!·.isAdmitted) = some entry ∧
          options.overlayText host content = .error (.value entry.refusal) := by
  obtain malformed | ⟨entries, loads⟩ := holds
  · refine .inr (.inl ?_)
    simp [CardOptions.overlayText, optionEntries, malformed, bind, Except.bind]
  · have found := options.overlayText_of_load loads
    cases laid : options.overlay entries with
    | ok settings => exact .inl ⟨settings, by rw [found, laid]; rfl⟩
    | error fault =>
        obtain ⟨entry, first, rfl⟩ := (options.overlay_eq_error entries fault).mp laid
        exact .inr (.inr ⟨entries, entry, loads, first, by rw [found, laid]; rfl⟩)

/-- Front matter is never refused for want of a mapping. -/
theorem overlayText_ne_root (holds : HoldsOptions host content) (options : CardOptions) :
    options.overlayText host content ≠ .error .root := by
  intro root
  obtain ⟨settings, ends⟩ | ends | ⟨_, entry, -, -, ends⟩ := holds.overlayText_cases options
  · cases root.symm.trans ends
  · cases root.symm.trans ends
  · cases root.symm.trans ends

end HoldsOptions

/-- Tokens that do not start with front matter are plain when no front matter stands behind the
first one. -/
theorem isPlain_of_tail {tokens : List BlockToken} (starts : frontMatter? tokens = none)
    (behind : Markdown.IsPlain tokens.tail) : Markdown.IsPlain tokens := by
  cases tokens with
  | nil => exact behind
  | cons token rest =>
      refine List.forall_mem_cons.mpr ⟨fun type => ?_, behind⟩
      simp [frontMatter?, type] at starts

namespace Document

variable {text : String} {document : Document}

/-- A document keeps as its front matter exactly what starts its text and holds options. -/
theorem frontMatter_eq_some (read : parse host text = .ok document) (content : String) :
    document.frontMatter = some content ↔
      frontMatter? (Markdown.tokens true text) = some content ∧ HoldsOptions host content := by
  rw [← parse_keeps]
  constructor
  · exact fun kept => ⟨document, read, kept⟩
  · rintro ⟨other, same, kept⟩
    rw [read] at same
    cases same
    exact kept

/-- Front matter that is kept is not passed over. -/
theorem options_of_kept {content : String} (kept : document.frontMatter = some content)
    (holds : HoldsOptions host content) (options : CardOptions) :
    document.options host options = options.overlayText host content := by
  have filled : ¬content.isEmpty := by
    simpa [String.isEmpty_iff] using holds.ne_empty
  simp only [Document.options, kept, if_neg filled]

/-- A document without front matter is read as its text is without looking for any, if none was
found behind its first token. -/
theorem documentOf_of_absent (read : parse host text = .ok document)
    (absent : document.frontMatter = none)
    (alone : Markdown.IsPlain (Markdown.tokens true text).tail) :
    documentOf text (Markdown.tokens false text) 0 none = .ok document := by
  cases readAs_iff.mpr read with
  | markdown starts _ plain =>
      rw [Markdown.tokens_plain (isPlain_of_tail starts alone)]
      exact plain
  | settings _ _ kept _ => cases absent.symm.trans kept
  | prose _ _ _ _ plain => exact plain

/-- What reading a text decides about its front matter agrees with what the options make of it.
Front matter is kept exactly when it starts the text and denotes a mapping or is malformed.  Then it
is not empty, it is laid over whatever options there are, and that ends well, or with the report of
malformed options, or with the report of its first entry that is not admitted, but never for want of
a mapping.  Without front matter the options stay as they are, and the text is read as it is
without looking for any, if no front matter was found behind the first token. -/
theorem options_agree (read : parse host text = .ok document) :
    (∀ content, document.frontMatter = some content ↔
      frontMatter? (Markdown.tokens true text) = some content ∧ HoldsOptions host content) ∧
      (∀ content, document.frontMatter = some content → content ≠ "" ∧
        ∀ options : CardOptions,
          document.options host options = options.overlayText host content ∧
          ((∃ settings, options.overlayText host content = .ok settings) ∨
            options.overlayText host content = .error (.malformed (host.describe content)) ∨
            ∃ (entries : List OptionEntry) (entry : OptionEntry),
              Yaml.load host content = .ok (.mapping entries) ∧
                entries.find? (!·.isAdmitted) = some entry ∧
                options.overlayText host content = .error (.value entry.refusal)) ∧
          options.overlayText host content ≠ .error .root) ∧
      (document.frontMatter = none →
        (∀ options : CardOptions, document.options host options = .ok options) ∧
          (Markdown.IsPlain (Markdown.tokens true text).tail →
            documentOf text (Markdown.tokens false text) 0 none = .ok document)) := by
  refine ⟨frontMatter_eq_some read, fun content kept => ?_, fun absent => ⟨fun options => ?_,
    documentOf_of_absent read absent⟩⟩
  · obtain ⟨-, holds⟩ := (frontMatter_eq_some read content).mp kept
    exact ⟨holds.ne_empty, fun options => ⟨options_of_kept kept holds options,
      holds.overlayText_cases options, holds.overlayText_ne_root options⟩⟩
  · simp only [Document.options, absent]

/-- Malformed front matter is kept, for the options to report.  A text behind two thematic breaks is
read as it is without looking for front matter. -/
theorem options_agree_settings :
    ∃ document other, parse .plain "---\nlang: @de\n---\nA\n" = .ok document ∧
      document.frontMatter = some "lang: @de" ∧ HoldsOptions .plain "lang: @de" ∧
      (∀ options : CardOptions,
        document.options .plain options = options.overlayText .plain "lang: @de" ∧
          options.overlayText .plain "lang: @de" ≠ .error .root) ∧
      parse .plain "---\n---\nA\n" = .ok other ∧
      (∀ options : CardOptions, other.options .plain options = .ok options) ∧
      documentOf "---\n---\nA\n" (Markdown.tokens false "---\n---\nA\n") 0 none = .ok other := by
  have first : (parse .plain "---\nlang: @de\n---\nA\n").toOption.map (·.frontMatter) =
      some (some "lang: @de") := by
    with_unfolding_all rfl
  have second : (parse .plain "---\n---\nA\n").toOption.map (·.frontMatter) = some none := by
    with_unfolding_all rfl
  have alone : (Markdown.tokens true "---\n---\nA\n").tail.all (·.type ≠ "front_matter") := by
    with_unfolding_all rfl
  obtain ⟨document, read, kept⟩ := Option.map_eq_some_iff.mp first
  obtain ⟨other, read', absent⟩ := Option.map_eq_some_iff.mp second
  rw [toOption_eq_some] at read read'
  obtain ⟨keeps, lays, -⟩ := options_agree read
  obtain ⟨-, -, leaves⟩ := options_agree read'
  refine ⟨document, other, read, kept, ((keeps _).mp kept).2, fun options => ?_, read',
    (leaves absent).1, (leaves absent).2 fun token member => ?_⟩
  · obtain ⟨laid, -, rooted⟩ := (lays _ kept).2 options
    exact ⟨laid, rooted⟩
  · simpa using List.all_eq_true.mp alone token member

/-- Front matter that a list item holds in the first line of a text is none of the document, but
ends the item, so that the text is not read as it is without looking for front matter. -/
theorem parse_listItem_ne_documentOf :
    ∃ document other, parse .plain "- --- x\n  a\nfoo\n" = .ok document ∧
      document.frontMatter = none ∧
      documentOf "- --- x\n  a\nfoo\n" (Markdown.tokens false "- --- x\n  a\nfoo\n") 0 none =
        .ok other ∧
      document.blocks ≠ other.blocks := by
  have first : (parse .plain "- --- x\n  a\nfoo\n").toOption.map
      (fun document => (document.frontMatter, document.blocks.length)) = some (none, 2) := by
    with_unfolding_all rfl
  have second : (documentOf "- --- x\n  a\nfoo\n"
      (Markdown.tokens false "- --- x\n  a\nfoo\n") 0 none).toOption.map
        (·.blocks.length) = some 1 := by
    with_unfolding_all rfl
  obtain ⟨document, read, found⟩ := Option.map_eq_some_iff.mp first
  obtain ⟨other, read', alone⟩ := Option.map_eq_some_iff.mp second
  rw [toOption_eq_some] at read read'
  obtain ⟨absent, two⟩ := Prod.mk.inj found
  refine ⟨document, other, read, absent, read', fun same => ?_⟩
  rw [same, alone] at two
  exact absurd two (by decide)

end Document

/-- Forty-three decimal digits take at most thirty-six digits in base sixteen. -/
theorem pow_ten_le_pow_sixteen {limit count : Nat} (long : limit ≤ 43 * count) :
    Nat.pow 10 limit ≤ Nat.pow 16 (36 * count) :=
  calc
    Nat.pow 10 limit ≤ Nat.pow 10 (43 * count) := Nat.pow_le_pow_right (by decide) long
    _ = Nat.pow (Nat.pow 10 43) count := Nat.pow_mul 10 43 count
    _ ≤ Nat.pow (Nat.pow 16 36) count := Nat.pow_le_pow_left (by decide) count
    _ = Nat.pow 16 (36 * count) := (Nat.pow_mul 16 36 count).symm

/-- A key that is an integer too long to be written is refused. -/
theorem CardOptions.overlayText_powerKey {count : Nat} (long : Yaml.digitLimit ≤ 43 * count)
    (options : CardOptions) :
    options.overlayText host (Yaml.powerKey (36 * count)) = .error (.value .tooLong) := by
  have tooLong :
      (Yaml.Value.integer (Int.ofNat (Nat.pow 16 (36 * count)))).hasLongInteger = true := by
    rw [Yaml.Value.hasLongInteger]
    exact decide_eq_true (pow_ten_le_pow_sixteen long)
  rw [overlayText_of_load (Yaml.load_powerKey host _), overlay, if_pos tooLong]
  rfl

/-- Front matter may fail over a key that names no setting, so that none of its values is at
fault. -/
theorem HoldsOptions.overlayText_longKey :
    HoldsOptions .plain (Yaml.powerKey (36 * 100)) ∧
      ∃ entries : List OptionEntry,
        Yaml.load .plain (Yaml.powerKey (36 * 100)) = .ok (.mapping entries) ∧
          (∀ entry ∈ entries, Setting.ofKey? entry.1 = none) ∧
          ∀ options : CardOptions,
            options.overlayText .plain (Yaml.powerKey (36 * 100)) = .error (.value .tooLong) := by
  have loads := Yaml.load_powerKey .plain (36 * 100)
  refine ⟨.inr ⟨_, loads⟩, _, loads, ?_, CardOptions.overlayText_powerKey (by decide)⟩
  intro entry member
  rw [List.mem_singleton.mp member]
  rfl

end CardPress
