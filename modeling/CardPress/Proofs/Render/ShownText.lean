import CardPress.Proofs.Document.Conservation
import CardPress.Proofs.Fallible
import CardPress.Render.Runs

/-!
# Shown text

A formatting node keeps the flattened text of its children, and a card shows the runs that its
children are converted to.  For well-nested tokens of known types, with no titles on images, the two
agree on every formatting node: its own text and its children show the same characters.
-/

namespace CardPress

/-- The characters that runs show, one run after the other. -/
def shownText (runs : List TextRun) : String :=
  String.join (runs.map TextRun.text)

@[simp]
theorem shownText_singleton (run : TextRun) : shownText [run] = run.text := by
  simp [shownText]

theorem shownText_append (front back : List TextRun) :
    shownText (front ++ back) = shownText front ++ shownText back := by
  simp [shownText]

/-- A change of appearance changes no characters. -/
theorem shownText_map {dress : TextRun → TextRun} (keeps : ∀ run, (dress run).text = run.text)
    (runs : List TextRun) : shownText (runs.map dress) = shownText runs := by
  rw [shownText, List.map_map, show TextRun.text ∘ dress = TextRun.text from funext keeps,
    shownText]

theorem Mark.text_style (mark : Mark) (run : TextRun) : (mark.style run).text = run.text := by
  cases mark <;> rfl

theorem Literal.text_run (form : Literal) (text : String) : (form.run text).text = text := by
  cases form <;> rfl

namespace Inline

/-- A formatting node with its text and without its children. -/
def withoutChildren : Inline → Inline
  | marked mark text _ raw => marked mark text [] raw
  | link text url title _ raw => link text url title [] raw
  | node => node

/-- Whether a node is converted to runs that show its flattened text. -/
def ShowsText (node : Inline) : Prop :=
  ∃ runs, node.runs = .ok runs ∧ shownText runs = node.plainText

/-- Whether a node is converted to runs that show its flattened text, both from its children and,
when they are taken away, from that text. -/
def ShowsTextTwice (node : Inline) : Prop :=
  ∃ runs alone, node.runs = .ok runs ∧ node.withoutChildren.runs = .ok alone ∧
    shownText runs = node.plainText ∧ shownText alone = shownText runs

/-- A tree that shows its text, and in which each formatting node shows its own twice. -/
structure ShowsThroughout (tree : Inline) : Prop where
  shows : tree.ShowsText
  inside : ∀ node ∈ tree.containers, node.ShowsTextTwice

/-- Siblings that each show their text show their flattened text. -/
theorem exists_allRuns {nodes : List Inline} (shows : ∀ node ∈ nodes, node.ShowsText) :
    ∃ runs, allRuns nodes = .ok runs ∧ shownText runs = flatten nodes := by
  induction nodes with
  | nil => exact ⟨[], rfl, rfl⟩
  | cons node nodes induction =>
      obtain ⟨first, others⟩ := List.forall_mem_cons.mp shows
      obtain ⟨front, converted, shown⟩ := first
      obtain ⟨back, laterConverted, laterShown⟩ := induction others
      refine ⟨front ++ back, ?_, ?_⟩
      · rw [allRuns, converted, laterConverted]
        rfl
      · rw [shownText_append, shown, laterShown, flatten, flatten, List.map_cons,
          String.join_cons]

end Inline

open Inline

/-- The runs of a formatting node show the flattened text of its children, with them or without. -/
theorem exists_runs_of_children {children : List Inline} {dress : TextRun → TextRun}
    (keeps : ∀ run, (dress run).text = run.text) (shows : ∀ child ∈ children, child.ShowsText) :
    ∃ runs, (do
        let runs ← if children.isEmpty then pure [{ text := flatten children }]
          else allRuns children
        return runs.map dress) = Except.ok (ε := Unsupported) runs ∧
      shownText runs = flatten children := by
  cases children with
  | nil => exact ⟨_, rfl, (shownText_map keeps _).trans (shownText_singleton _)⟩
  | cons child children =>
      obtain ⟨runs, converted, shown⟩ := exists_allRuns shows
      refine ⟨runs.map dress, ?_, by rw [shownText_map keeps, shown]⟩
      rw [if_neg (by simp), converted]
      rfl

theorem Opening.showsText_close (start : Opening) {children : List Inline}
    (shows : ∀ child ∈ children, child.ShowsText) : (start.close children).ShowsText := by
  rw [ShowsText, plainText_close]
  cases start with
  | mark form markup =>
      rw [close, Inline.runs]
      exact exists_runs_of_children form.text_style shows
  | link url title =>
      rw [close, Inline.runs]
      exact exists_runs_of_children (fun _ => rfl) shows

theorem Opening.showsTextTwice_close (start : Opening) {children : List Inline}
    (shows : ∀ child ∈ children, child.ShowsText) : (start.close children).ShowsTextTwice := by
  obtain ⟨runs, converted, shown⟩ := start.showsText_close shows
  have alone : ∃ alone, (start.close children).withoutChildren.runs = .ok alone ∧
      shownText alone = (start.close children).plainText := by
    rw [plainText_close]
    cases start with
    | mark form markup =>
        exact ⟨_, rfl, (shownText_map form.text_style _).trans (shownText_singleton _)⟩
    | link url title => exact ⟨_, rfl, shownText_singleton _⟩
  obtain ⟨alone, convertedAlone, shownAlone⟩ := alone
  exact ⟨runs, alone, converted, convertedAlone, shown, shownAlone.trans shown.symm⟩

/-- What the children of a container show, the container shows with them. -/
theorem Opening.showsThroughout_close (start : Opening) {children : List Inline}
    (below : ∀ child ∈ children, child.ShowsThroughout) :
    (start.close children).ShowsThroughout := by
  have shows : ∀ child ∈ children, child.ShowsText := fun child member => (below child member).shows
  refine ⟨start.showsText_close shows, ?_⟩
  rw [containers_close]
  refine List.forall_mem_cons.mpr ⟨start.showsTextTwice_close shows, fun node member => ?_⟩
  obtain ⟨child, found, inside⟩ := mem_allContainers.mp member
  exact (below child found).inside node inside

/-- A token of a known type shows its text, unless it is an image with a title. -/
theorem InlineToken.Denotes.showsText {token : InlineToken} {node : Inline}
    (denotes : token.Denotes node) (known : token.type ∈ inlineTypes)
    (untitled : token.type = "image" → token.attribute? "title" = none) : node.ShowsText := by
  cases node with
  | literal form text raw =>
      exact ⟨_, rfl, (shownText_singleton _).trans (form.text_run text)⟩
  | image source alt title raw =>
      obtain ⟨type, -, -, found, -⟩ := denotes
      have none : title = none := by
        rw [← found, attributeText?, untitled type]
        rfl
      subst none
      exact ⟨_, rfl, shownText_singleton _⟩
  | unknown kind text raw =>
      obtain ⟨rfl, strange, -⟩ := denotes
      exact absurd known strange
  | marked => cases denotes
  | link => cases denotes

/-- Well-nested tokens of known types, with no titles on images, become runs that show the flattened
text of the tree; and each formatting node of the tree, at any depth, is converted to runs that show
its own text, whether it has its children or is left without them. -/
theorem Inline.runs_show_plainText {tokens : List InlineToken} (nested : WellNested tokens)
    (untitled : ∀ token ∈ tokens, token.type = "image" → token.attribute? "title" = none)
    (known : ∀ token ∈ tokens, token.type ∈ inlineTypes) :
    (∃ runs, allRuns (ofTokens tokens) = .ok runs ∧
      shownText runs = flatten (ofTokens tokens)) ∧
    ∀ node ∈ allContainers (ofTokens tokens), node.ShowsTextTwice := by
  have trees : ∀ tree ∈ ofTokens tokens, tree.ShowsThroughout := by
    refine nested.forall_readBehind ?_ ?_ ?_ (by simp)
    · exact fun text raw => ⟨⟨_, rfl, shownText_singleton _⟩, by simp [containers]⟩
    · intro token member node denotes
      refine ⟨denotes.showsText (known token member) (untitled token member), ?_⟩
      simp [denotes.containers_eq]
    · exact fun start children below => start.showsThroughout_close below
  refine ⟨exists_allRuns fun tree member => (trees tree member).shows, fun node member => ?_⟩
  obtain ⟨tree, found, inside⟩ := mem_allContainers.mp member
  exact (trees tree found).inside node inside

/-- A link that holds an image and empty emphasis. -/
def agreeingLink : List InlineToken :=
  { type := "link_open", attributes := [("href", .text "u")] } ::
      ({ type := "image", content := "i", attributes := [("src", .text "s")] } ::
        ({ type := "em_open", markup := "*" } :: [] ++ { type := "em_close" } :: [])) ++
    { type := "link_close" } :: []

/-- Bold text around a line break, an escaped character and the link. -/
def agreeingTokens : List InlineToken :=
  { type := "strong_open", markup := "**" } ::
      ({ type := "text", content := "a" } :: { type := "softbreak" } ::
        { type := "text_special", content := "*", markup := "\\*" } :: agreeingLink) ++
    { type := "strong_close" } :: [{ type := "code_inline", content := "c", markup := "`" }]

theorem wellNested_agreeingTokens : WellNested agreeingTokens := by
  have link : WellNested agreeingLink :=
    .container rfl (.single (.inr ⟨_, rfl⟩) (.container rfl .nil rfl .nil)) rfl .nil
  have inside : WellNested ({ type := "text", content := "a" } :: { type := "softbreak" } ::
      { type := "text_special", content := "*", markup := "\\*" } :: agreeingLink) :=
    .single (.inl ⟨_, rfl⟩) (.single (.inl ⟨_, rfl⟩) (.single (.inr ⟨_, rfl⟩) link))
  exact .container rfl inside rfl (.single (.inr ⟨_, rfl⟩) .nil)

theorem Inline.runs_show_plainText_nested :
    WellNested agreeingTokens ∧
      (∀ token ∈ agreeingTokens, token.type = "image" → token.attribute? "title" = none) ∧
      (∀ token ∈ agreeingTokens, token.type ∈ inlineTypes) ∧
      flatten (ofTokens agreeingTokens) = "a\n*ic" ∧
      (allContainers (ofTokens agreeingTokens)).length = 3 ∧
      (∃ runs, allRuns (ofTokens agreeingTokens) = .ok runs ∧ shownText runs = "a\n*ic") ∧
      ∀ node ∈ allContainers (ofTokens agreeingTokens), node.ShowsTextTwice := by
  have untitled : ∀ token ∈ agreeingTokens,
      token.type = "image" → token.attribute? "title" = none := by decide
  have known : ∀ token ∈ agreeingTokens, token.type ∈ inlineTypes := by decide
  have flat : flatten (ofTokens agreeingTokens) = "a\n*ic" := by decide
  obtain ⟨runs, containers⟩ := Inline.runs_show_plainText wellNested_agreeingTokens untitled known
  exact ⟨wellNested_agreeingTokens, untitled, known, flat, rfl, flat ▸ runs, containers⟩

end CardPress
