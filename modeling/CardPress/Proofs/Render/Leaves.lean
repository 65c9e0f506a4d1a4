import CardPress.Proofs.Fallible
import CardPress.Render.Runs

/-!
# Leaves of running text

Running text is a forest.  Its leaves are the nodes without children, read from left to right, and
each leaf stands inside a chain of formatting nodes.  The central theorem says that a conversion
gives one run for each leaf, in order, and that the look of a run is read off its leaf and its
chain: a mark counts wherever it stands in the chain, and of several links the outermost one wins.
-/

namespace CardPress

/-- A formatting node, as the leaves below it see it. -/
inductive Wrapper where
  | mark (form : Mark)
  | link (url : String)
  deriving DecidableEq, Repr

namespace Wrapper

/-- The address of a link. -/
def url? : Wrapper → Option String
  | mark _ => none
  | link url => some url

/-- Whether a formatting node is a link. -/
def isLink (wrapper : Wrapper) : Bool :=
  wrapper.url?.isSome

/-- Add the appearance of a formatting node to a run. -/
def dress : Wrapper → TextRun → TextRun
  | mark form => form.style
  | link url => TextRun.linkTo url

end Wrapper

/-- What stands at a leaf. -/
inductive LeafForm where
  | literal (form : Literal)
  | image (source : String)
  /-- A formatting node without children, which is in its own chain. -/
  | hollow
  deriving DecidableEq, Repr

/-- A leaf of running text. -/
structure Leaf where
  form : LeafForm
  text : String
  /-- The formatting nodes around the leaf, outermost first. -/
  chain : List Wrapper
  deriving DecidableEq, Repr

namespace Leaf

/-- The same leaf inside one more formatting node. -/
def within (wrapper : Wrapper) (leaf : Leaf) : Leaf :=
  { leaf with chain := wrapper :: leaf.chain }

/-- The source of a leaf that is an image. -/
def source? (leaf : Leaf) : Option String :=
  match leaf.form with
  | .image source => some source
  | _ => none

/-- Code and markup are set in a fixed width. -/
def isFixedWidth (leaf : Leaf) : Bool :=
  leaf.form = .literal .code || leaf.form = .literal .html

/-- The run of a leaf. -/
def run (leaf : Leaf) : TextRun where
  text := leaf.text
  weight := if .mark .strong ∈ leaf.chain then some .bolder else none
  italic := if .mark .emphasis ∈ leaf.chain then some true else none
  strikethrough := if .mark .strikethrough ∈ leaf.chain then some true else none
  fontType := if leaf.isFixedWidth then some .monospace else none
  color :=
    if leaf.chain.any Wrapper.isLink || leaf.source?.isSome then some .accent else none
  size := none
  opens := leaf.chain.findSome? Wrapper.url? <|> leaf.source?

@[simp]
theorem source?_within (wrapper : Wrapper) (leaf : Leaf) :
    (leaf.within wrapper).source? = leaf.source? := rfl

@[simp]
theorem isFixedWidth_within (wrapper : Wrapper) (leaf : Leaf) :
    (leaf.within wrapper).isFixedWidth = leaf.isFixedWidth := rfl

@[simp]
theorem chain_within (wrapper : Wrapper) (leaf : Leaf) :
    (leaf.within wrapper).chain = wrapper :: leaf.chain := rfl

@[simp]
theorem text_within (wrapper : Wrapper) (leaf : Leaf) :
    (leaf.within wrapper).text = leaf.text := rfl

/-- One more formatting node dresses the run once more. -/
theorem run_within (wrapper : Wrapper) (leaf : Leaf) :
    (leaf.within wrapper).run = wrapper.dress leaf.run := by
  cases wrapper with
  | mark form =>
      cases form <;>
        simp [run, Wrapper.dress, Mark.style, Wrapper.isLink, Wrapper.url?,
          List.findSome?_cons] <;>
        rfl
  | link url =>
      simp [run, Wrapper.dress, TextRun.linkTo, Wrapper.isLink, Wrapper.url?,
        List.findSome?_cons]
      rfl

end Leaf

mutual

/-- The leaves of a node inside a chain of formatting nodes. -/
def Inline.leaves (chain : List Wrapper) : Inline → List Leaf
  | .literal form text _ => [{ form := .literal form, text, chain }]
  | .marked mark text children _ =>
      if children.isEmpty then [{ form := .hollow, text, chain := chain ++ [.mark mark] }]
      else Inline.allLeaves (chain ++ [.mark mark]) children
  | .link text url _ children _ =>
      if children.isEmpty then [{ form := .hollow, text, chain := chain ++ [.link url] }]
      else Inline.allLeaves (chain ++ [.link url]) children
  | .image source alt title _ =>
      [{ form := .image source, text := title.getD (alt.getD ""), chain }]
  | .unknown .. => []

/-- The leaves of a list of siblings inside a chain of formatting nodes, from left to right. -/
def Inline.allLeaves (chain : List Wrapper) : List Inline → List Leaf
  | [] => []
  | node :: nodes => node.leaves chain ++ Inline.allLeaves chain nodes

end

mutual

/-- A longer chain on the outside is a longer chain of every leaf. -/
theorem Inline.leaves_cons (wrapper : Wrapper) (chain : List Wrapper) :
    (node : Inline) →
      node.leaves (wrapper :: chain) = (node.leaves chain).map (Leaf.within wrapper)
  | .literal form text raw => by simp [Inline.leaves, Leaf.within]
  | .marked mark text children raw => by
      have below := Inline.allLeaves_cons wrapper (chain ++ [.mark mark]) children
      cases children with
      | nil => simp [Inline.leaves, Leaf.within]
      | cons child children => simpa [Inline.leaves] using below
  | .link text url title children raw => by
      have below := Inline.allLeaves_cons wrapper (chain ++ [.link url]) children
      cases children with
      | nil => simp [Inline.leaves, Leaf.within]
      | cons child children => simpa [Inline.leaves] using below
  | .image source alt title raw => by simp [Inline.leaves, Leaf.within]
  | .unknown kind text raw => by simp [Inline.leaves]

theorem Inline.allLeaves_cons (wrapper : Wrapper) (chain : List Wrapper) :
    (nodes : List Inline) →
      Inline.allLeaves (wrapper :: chain) nodes =
        (Inline.allLeaves chain nodes).map (Leaf.within wrapper)
  | [] => by simp [Inline.allLeaves]
  | node :: nodes => by
      simp only [Inline.allLeaves, List.map_append]
      rw [Inline.leaves_cons wrapper chain node, Inline.allLeaves_cons wrapper chain nodes]

end

/-- The runs of running text, read off its leaves. -/
def Inline.leafRuns (nodes : List Inline) : List TextRun :=
  (Inline.allLeaves [] nodes).map Leaf.run

/-- Below a formatting node, the runs of the leaves are dressed once more. -/
theorem Inline.map_run_allLeaves_singleton (wrapper : Wrapper) (nodes : List Inline) :
    (Inline.allLeaves [wrapper] nodes).map Leaf.run =
      (Inline.leafRuns nodes).map wrapper.dress := by
  rw [Inline.allLeaves_cons, Inline.leafRuns, List.map_map, List.map_map]
  congr 1
  funext leaf
  exact Leaf.run_within wrapper leaf

@[simp]
theorem Inline.leafRuns_cons (node : Inline) (nodes : List Inline) :
    Inline.leafRuns (node :: nodes) =
      (node.leaves []).map Leaf.run ++ Inline.leafRuns nodes := by
  simp [Inline.leafRuns, Inline.allLeaves]

/-- A formatting node dresses the runs of its children, or the run of its own text when it has
none; either way these are the runs of the leaves below it. -/
theorem Inline.runs_wrapped (wrapper : Wrapper) (text : String) (children : List Inline)
    {runs : List TextRun}
    (below : ∀ {inner}, Inline.allRuns children = .ok inner → inner = Inline.leafRuns children)
    (converted :
      (do
        let inner ← if children.isEmpty then pure [{ text }] else Inline.allRuns children
        return inner.map wrapper.dress) = Except.ok runs) :
    runs =
      (if children.isEmpty then [{ form := .hollow, text, chain := [wrapper] }]
        else Inline.allLeaves [wrapper] children).map Leaf.run := by
  cases children with
  | nil =>
      have equal : runs = [wrapper.dress { text }] := by
        simpa [bind, Except.bind, pure, Except.pure] using converted.symm
      rw [equal]
      exact congrArg (fun run => [run])
        (Leaf.run_within wrapper { form := .hollow, text, chain := [] }).symm
  | cons child children =>
      have unfolded :
          (Inline.allRuns (child :: children) >>= fun inner => pure (inner.map wrapper.dress)) =
            Except.ok runs := by
        simpa using converted
      obtain ⟨inner, innerRuns, dressed⟩ := bind_eq_ok.mp unfolded
      have equal : runs = inner.map wrapper.dress := by
        simpa [pure, Except.pure] using dressed.symm
      rw [equal, below innerRuns]
      exact (Inline.map_run_allLeaves_singleton wrapper (child :: children)).symm

mutual

/-- The conversion works from the leaves outwards, and ends with the runs of the leaves. -/
theorem Inline.runs_eq (node : Inline) {runs : List TextRun} (converted : node.runs = .ok runs) :
    runs = (node.leaves []).map Leaf.run := by
  cases node with
  | literal form text raw =>
      have equal : runs = [form.run text] := by simpa [Inline.runs] using converted.symm
      rw [equal]
      cases form <;> rfl
  | marked mark text children raw =>
      rw [Inline.runs] at converted
      exact Inline.runs_wrapped (.mark mark) text children (Inline.allRuns_eq children) converted
  | link text url title children raw =>
      rw [Inline.runs] at converted
      exact Inline.runs_wrapped (.link url) text children (Inline.allRuns_eq children) converted
  | image source alt title raw =>
      have equal : runs = [TextRun.linkTo source { text := title.getD (alt.getD "") }] := by
        simpa [Inline.runs] using converted.symm
      rw [equal]
      rfl
  | unknown kind text raw => simp [Inline.runs] at converted

theorem Inline.allRuns_eq (nodes : List Inline) {runs : List TextRun}
    (converted : Inline.allRuns nodes = .ok runs) : runs = Inline.leafRuns nodes := by
  cases nodes with
  | nil =>
      simp only [Inline.allRuns, Except.ok.injEq] at converted
      rw [← converted]
      rfl
  | cons node nodes =>
      rw [Inline.allRuns, bind_eq_ok] at converted
      obtain ⟨front, frontRuns, rest⟩ := converted
      rw [bind_eq_ok] at rest
      obtain ⟨back, backRuns, joined⟩ := rest
      have equal : runs = front ++ back := by simpa [pure, Except.pure] using joined.symm
      rw [equal, Inline.leafRuns_cons, Inline.runs_eq node frontRuns,
        Inline.allRuns_eq nodes backRuns]

end

/-- A conversion that succeeds gives the run of each leaf, from left to right. -/
theorem Inline.allRuns_leafwise (nodes : List Inline) {runs : List TextRun}
    (converted : Inline.allRuns nodes = .ok runs) :
    runs = (Inline.allLeaves [] nodes).map Leaf.run := by
  rw [Inline.allRuns_eq nodes converted, Inline.leafRuns]

/-- Bold text around a link that holds empty emphasis, an image inside another link, and code. -/
def nestedMarkup : List Inline :=
  [.marked .strong "" [
      .literal .plain "a" "a",
      .link "" "outer" none [
        .marked .emphasis "e" [] "",
        .link "" "inner" none [.image "s" (some "alt") none ""] "",
        .literal .code "c" "`c`"] ""] "",
    .image "t" none none ""]

theorem Inline.allRuns_leafwise_nested :
    ∃ runs, Inline.allRuns nestedMarkup = .ok runs ∧
      runs = [
        { text := "a", weight := some .bolder },
        { text := "e", weight := some .bolder, italic := some true, color := some .accent,
          opens := some "outer" },
        { text := "alt", weight := some .bolder, color := some .accent, opens := some "outer" },
        { text := "c", weight := some .bolder, fontType := some .monospace,
          color := some .accent, opens := some "outer" },
        { text := "", color := some .accent, opens := some "t" }] ∧
      runs = (Inline.allLeaves [] nestedMarkup).map Leaf.run :=
  ⟨_, rfl, rfl, Inline.allRuns_leafwise nestedMarkup rfl⟩

end CardPress
