import CardPress.Document.Page
import CardPress.Proofs.Markdown.FrontMatter
import CardPress.Proofs.Markdown.Nesting

/-!
# Reading a page

A text is read as a document unless what stands between the fences at its start is well formed but
denotes nothing.  Otherwise what stands there is kept when it denotes a mapping or is malformed, and
is read as Markdown when it denotes anything else.
-/

namespace CardPress

variable {host : Host}

/-! ## What is kept -/

/-- A text that options may be read from: it denotes a mapping, or it is malformed, which is for the
options to report. -/
def HoldsOptions (host : Host) (content : String) : Prop :=
  Yaml.load host content = .error .malformed ∨
    ∃ entries, Yaml.load host content = .ok (.mapping entries)

theorem isFrontMatter_eq_true {content : String} :
    isFrontMatter host content = .ok true ↔ HoldsOptions host content := by
  unfold isFrontMatter HoldsOptions
  cases Yaml.load host content with
  | ok value => cases value <;> simp
  | error failure => cases failure <;> simp

theorem isFrontMatter_eq_false {content : String} :
    isFrontMatter host content = .ok false ↔
      ∃ value, Yaml.load host content = .ok value ∧ ∀ entries, value ≠ .mapping entries := by
  unfold isFrontMatter
  cases Yaml.load host content with
  | ok value => cases value <;> simp
  | error failure => cases failure <;> simp

theorem isFrontMatter_eq_error {content : String} {failure : Yaml.Failure} :
    isFrontMatter host content = .error failure ↔
      Yaml.load host content = .error failure ∧ failure ≠ .malformed := by
  unfold isFrontMatter
  cases Yaml.load host content with
  | ok value => cases value <;> simp
  | error found => cases found <;> simp +contextual [eq_comm]

/-! ## Reading never fails -/

/-- The tokens of a text are read as a document. -/
theorem exists_documentOf (text : String) (frontMatter : Bool) :
    ∃ blocks, documentOf text (Markdown.tokens frontMatter text) 0 none =
      .ok { blocks, frontMatter := none } := by
  obtain ⟨blocks, read⟩ := (Markdown.tokens_nested frontMatter text).ofTokens []
  refine ⟨blocks, ?_⟩
  change Block.ofTokens [] (Text.lines text) (Markdown.tokens frontMatter text) 0 = _ at read
  rw [documentOf, read]

/-- The tokens of a text behind its front matter are read as a document. -/
theorem exists_documentOf_behind {text content : String}
    (starts : frontMatter? (Markdown.tokens true text) = some content) :
    ∃ blocks, documentOf text (Markdown.tokens true text) 1 (some content) =
      .ok { blocks, frontMatter := some content } := by
  have nested := Markdown.tokens_nested true text
  cases tokens : Markdown.tokens true text with
  | nil => simp [tokens, frontMatter?] at starts
  | cons token rest =>
      rw [tokens] at nested starts
      simp only [frontMatter?, Option.ite_none_right_eq_some, beq_iff_eq] at starts
      obtain ⟨blocks, read⟩ := (nested.tail starts.1).ofTokens [token]
      refine ⟨blocks, ?_⟩
      change Block.ofTokens [] (Text.lines text) (token :: rest) 1 = _ at read
      rw [documentOf, read]

/-! ## The ways of reading a text -/

/-- How a text is read, by what stands between the fences at its start. -/
inductive ReadAs (host : Host) (text : String) : Except PageError Document → Prop where
  /-- There is no front matter at the start. -/
  | markdown {document : Document} (plain : frontMatter? (Markdown.tokens true text) = none)
      (absent : document.frontMatter = none)
      (read : documentOf text (Markdown.tokens true text) 0 none = .ok document) :
      ReadAs host text (.ok document)
  /-- The front matter is kept. -/
  | settings {document : Document} {content : String}
      (starts : frontMatter? (Markdown.tokens true text) = some content)
      (holds : HoldsOptions host content) (kept : document.frontMatter = some content)
      (read : documentOf text (Markdown.tokens true text) 1 (some content) = .ok document) :
      ReadAs host text (.ok document)
  /-- What looks like front matter denotes something else, and is read as Markdown. -/
  | prose {document : Document} {content : String} {value : Yaml.Value}
      (starts : frontMatter? (Markdown.tokens true text) = some content)
      (loads : Yaml.load host content = .ok value) (other : ∀ entries, value ≠ .mapping entries)
      (absent : document.frontMatter = none)
      (read : documentOf text (Markdown.tokens false text) 0 none = .ok document) :
      ReadAs host text (.ok document)
  /-- The front matter is well formed, but a value in it denotes nothing. -/
  | failure {content : String} {failure : Yaml.Failure}
      (starts : frontMatter? (Markdown.tokens true text) = some content)
      (fails : Yaml.load host content = .error failure) (formed : failure ≠ .malformed) :
      ReadAs host text (.error (.yaml failure))

theorem ReadAs.parse_eq {text : String} {outcome : Except PageError Document}
    (way : ReadAs host text outcome) : Document.parse host text = outcome := by
  cases way with
  | markdown plain absent read => simp only [Document.parse, plain, read]
  | settings starts holds kept read =>
      simp only [Document.parse, starts, isFrontMatter_eq_true.mpr holds, read]
  | prose starts loads other absent read =>
      simp only [Document.parse, starts, isFrontMatter_eq_false.mpr ⟨_, loads, other⟩, read]
  | failure starts fails formed =>
      simp only [Document.parse, starts, isFrontMatter_eq_error.mpr ⟨fails, formed⟩]

/-- Every text is read in some way: once the tokens are known to be a forest, nothing but the front
matter can fail. -/
theorem exists_readAs (host : Host) (text : String) : ∃ outcome, ReadAs host text outcome := by
  cases starts : frontMatter? (Markdown.tokens true text) with
  | none =>
      obtain ⟨blocks, read⟩ := exists_documentOf text true
      exact ⟨_, .markdown starts rfl read⟩
  | some content =>
      cases decided : isFrontMatter host content with
      | ok isKept =>
          cases isKept with
          | true =>
              obtain ⟨blocks, read⟩ := exists_documentOf_behind starts
              exact ⟨_, .settings starts (isFrontMatter_eq_true.mp decided) rfl read⟩
          | false =>
              obtain ⟨value, loads, other⟩ := isFrontMatter_eq_false.mp decided
              obtain ⟨blocks, read⟩ := exists_documentOf text false
              exact ⟨_, .prose starts loads other rfl read⟩
      | error failure =>
          obtain ⟨fails, formed⟩ := isFrontMatter_eq_error.mp decided
          exact ⟨_, .failure starts fails formed⟩

/-- The way in which a text is read fixes what it is read as. -/
theorem readAs_iff {text : String} {outcome : Except PageError Document} :
    ReadAs host text outcome ↔ Document.parse host text = outcome := by
  constructor
  · exact ReadAs.parse_eq
  · rintro rfl
    obtain ⟨outcome, way⟩ := exists_readAs host text
    exact way.parse_eq ▸ way

/-! ## Documents and failures -/

namespace Document

variable {text content : String}

theorem parse_keeps (host : Host) (text content : String) :
    (∃ document, parse host text = .ok document ∧ document.frontMatter = some content) ↔
      frontMatter? (Markdown.tokens true text) = some content ∧ HoldsOptions host content := by
  simp only [← readAs_iff]
  constructor
  · rintro ⟨document, way, keeps⟩
    cases way with
    | markdown plain absent read => cases absent.symm.trans keeps
    | settings starts holds kept read =>
        cases kept.symm.trans keeps
        exact ⟨starts, holds⟩
    | prose starts loads other absent read => cases absent.symm.trans keeps
  · rintro ⟨starts, holds⟩
    obtain ⟨blocks, read⟩ := exists_documentOf_behind starts
    exact ⟨_, .settings starts holds rfl read, rfl⟩

end Document

end CardPress
