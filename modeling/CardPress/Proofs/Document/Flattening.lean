import CardPress.Document.Inlines

/-!
# Running text as tokens

A forest of running text is flattened into tokens: a container becomes its opening token, its
children and its closing token, and text becomes any pieces that spell it, with line breaks in
the place of line feeds and empty pieces wherever they are put.  A forest is normal when its texts
are as long as they can be and its containers hold the text below them.  The central theorem says
that reading any flattening of a normal forest gives that forest back, however its text was cut.
-/

namespace CardPress

/-! ## Normal forests -/

/-- The types of inline tokens with a meaning of their own. -/
def inlineTypes : List String :=
  ["text", "softbreak", "hardbreak", "text_special", "strong_open", "em_open", "s_open",
    "link_open", "strong_close", "em_close", "s_close", "link_close", "code_inline",
    "html_inline", "image"]

namespace Inline

/-- Whether a node is running text. -/
def isPlain : Inline → Bool
  | literal .plain _ _ => true
  | _ => false

mutual

/-- The text of the leaves at and below a node; an image counts as the text in its place. -/
def leafText : Inline → String
  | literal _ text _ => text
  | marked _ _ children _ => allLeafText children
  | link _ _ _ children _ => allLeafText children
  | image _ alt _ _ => alt.getD ""
  | unknown _ text _ => text

/-- The text of the leaves at and below some siblings, from left to right. -/
def allLeafText : List Inline → String
  | [] => ""
  | node :: nodes => node.leafText ++ allLeafText nodes

end

mutual

/-- A node with the text and the source that reading tokens can give it. -/
def IsNormal : Inline → Prop
  | literal .plain text raw => text ≠ "" ∧ raw = text
  | literal .escaped text raw => ∃ markup, raw = firstNonempty markup text
  | literal .code text raw => ∃ markup, raw = markup ++ text ++ markup
  | literal .html text raw => raw = text
  | marked _ text children raw =>
      text = allLeafText children ∧ (∃ markup, raw = markup ++ text ++ markup) ∧
        AllNormal children
  | link text url _ children raw =>
      text = allLeafText children ∧ raw = "[" ++ text ++ "](" ++ url ++ ")" ∧
        AllNormal children
  | image source alt _ raw => raw = "![" ++ alt.getD "" ++ "](" ++ source ++ ")"
  | unknown kind text raw => kind ∉ inlineTypes ∧ ∃ markup, raw = firstNonempty text markup

/-- Normal siblings, no two of which are neighbouring running text. -/
def AllNormal : List Inline → Prop
  | [] => True
  | node :: nodes =>
      node.IsNormal ∧ (node.isPlain → ∀ next ∈ nodes.head?, next.isPlain = false) ∧
        AllNormal nodes

end

end Inline

/-! ## Flattenings -/

/-- The type of the token that opens a formatting mark. -/
def Mark.openType : Mark → String
  | strong => "strong_open"
  | emphasis => "em_open"
  | strikethrough => "s_open"

/-- The type of the token that closes a formatting mark. -/
def Mark.closeType : Mark → String
  | strong => "strong_close"
  | emphasis => "em_close"
  | strikethrough => "s_close"

/-- Tokens that spell a text: pieces of it, and line breaks for line feeds. -/
inductive Spells : String → List InlineToken → Prop
  | done : Spells "" []
  | piece {token : InlineToken} {text : String} {tokens : List InlineToken}
      (type : token.type = "text") (later : Spells text tokens) :
      Spells (token.content ++ text) (token :: tokens)
  | lineBreak {token : InlineToken} {text : String} {tokens : List InlineToken}
      (type : token.type = "softbreak" ∨ token.type = "hardbreak") (later : Spells text tokens) :
      Spells ("\n" ++ text) (token :: tokens)

theorem Spells.single (text : String) : Spells text [{ type := "text", content := text }] := by
  let piece : InlineToken := { type := "text", content := text }
  have spells : Spells (piece.content ++ "") [piece] := .piece rfl .done
  rwa [String.append_empty] at spells

/-- The nodes that a single token stands for: all but running text and containers. -/
def InlineToken.Denotes (token : InlineToken) : Inline → Prop
  | .literal .escaped text raw =>
      token.type = "text_special" ∧ token.content = text ∧ firstNonempty token.markup text = raw
  | .literal .code text raw =>
      token.type = "code_inline" ∧ token.content = text ∧
        token.markup ++ text ++ token.markup = raw
  | .literal .html text raw =>
      token.type = "html_inline" ∧ token.content = text ∧ text = raw
  | .image source alt title raw =>
      token.type = "image" ∧ token.attributeText "src" = source ∧
        (if token.content.isEmpty then token.attributeText? "alt" else some token.content) = alt ∧
        token.attributeText? "title" = title ∧
        "![" ++ alt.getD "" ++ "](" ++ source ++ ")" = raw
  | .unknown kind text raw =>
      token.type = kind ∧ kind ∉ inlineTypes ∧ token.content = text ∧
        firstNonempty text token.markup = raw
  | .literal .plain _ _ => False
  | .marked .. => False
  | .link .. => False

/-- The ways to write a forest of running text as tokens. -/
inductive Flattening : List Inline → List InlineToken → Prop
  | nil : Flattening [] []
  /-- An empty piece of text may stand anywhere. -/
  | empty {nodes : List Inline} {token : InlineToken} {tokens : List InlineToken}
      (type : token.type = "text") (content : token.content = "")
      (later : Flattening nodes tokens) : Flattening nodes (token :: tokens)
  | text {nodes : List Inline} {text raw : String} {pieces tokens : List InlineToken}
      (spelled : Spells text pieces) (later : Flattening nodes tokens) :
      Flattening (.literal .plain text raw :: nodes) (pieces ++ tokens)
  | leaf {node : Inline} {nodes : List Inline} {token : InlineToken} {tokens : List InlineToken}
      (denotes : token.Denotes node) (later : Flattening nodes tokens) :
      Flattening (node :: nodes) (token :: tokens)
  | marked {mark : Mark} {text raw : String} {children nodes : List Inline}
      {opening closing : InlineToken} {inner tokens : List InlineToken}
      (opens : opening.type = mark.openType)
      (source : opening.markup ++ text ++ opening.markup = raw)
      (inside : Flattening children inner) (closes : closing.type = mark.closeType)
      (later : Flattening nodes tokens) :
      Flattening (.marked mark text children raw :: nodes) (opening :: inner ++ closing :: tokens)
  | link {text url raw : String} {title : Option String} {children nodes : List Inline}
      {opening closing : InlineToken} {inner tokens : List InlineToken}
      (opens : opening.type = "link_open") (target : opening.attributeText "href" = url)
      (titled : opening.attributeText? "title" = title)
      (inside : Flattening children inner) (closes : closing.type = "link_close")
      (later : Flattening nodes tokens) :
      Flattening (.link text url title children raw :: nodes)
        (opening :: inner ++ closing :: tokens)

namespace InlineBuilder

/-! ## Pieces of text -/

/-- No running text stands last, so that text starts a node of its own. -/
def Apart (builder : InlineBuilder) : Prop :=
  ∀ last ∈ builder.nodes.head?, last.isPlain = false

theorem apart_or_joined (builder : InlineBuilder) :
    builder.Apart ∨
      ∃ text raw before, builder.nodes = .literal .plain text raw :: before := by
  obtain ⟨nodes, outer⟩ := builder
  cases nodes with
  | nil => exact .inl (by simp [Apart])
  | cons last before =>
      cases last with
      | literal form text raw =>
          cases form with
          | plain => exact .inr ⟨text, raw, before, rfl⟩
          | _ => exact .inl (by simp [Apart, Inline.isPlain])
      | _ => exact .inl (by simp [Apart, Inline.isPlain])

theorem addText_empty (builder : InlineBuilder) : builder.addText "" = builder := rfl

theorem addText_joined (text raw content : String) (before : List Inline)
    (outer : List (Opening × List Inline)) :
    ({ nodes := .literal .plain text raw :: before, outer } : InlineBuilder).addText content =
      { nodes := .literal .plain (text ++ content) (raw ++ content) :: before, outer } := by
  by_cases nothing : content = ""
  · simp [nothing, addText]
  · simp [nothing, addText]

theorem addText_apart {builder : InlineBuilder} (apart : builder.Apart) {content : String}
    (filled : content ≠ "") :
    builder.addText content = builder.addNode (.literal .plain content content) := by
  unfold addText
  rw [if_neg (by simpa using filled)]
  split
  · next text raw before last =>
      have plain := apart (.literal .plain text raw) (by rw [last]; rfl)
      cases plain
  · rfl

/-- Two pieces of text one after the other are one. -/
theorem addText_addText (builder : InlineBuilder) (first second : String) :
    (builder.addText first).addText second = builder.addText (first ++ second) := by
  by_cases nothing : first = ""
  · rw [nothing, addText_empty, String.empty_append]
  rcases builder.apart_or_joined with apart | ⟨text, raw, before, last⟩
  · have longer : first ++ second ≠ "" := by simp [nothing]
    rw [addText_apart apart nothing, addText_apart apart longer, addNode, addText_joined]
    rfl
  · obtain ⟨nodes, outer⟩ := builder
    obtain rfl : nodes = _ := last
    simp only [addText_joined, String.append_assoc]

theorem foldl_step_spells {text : String} {tokens : List InlineToken}
    (spells : Spells text tokens) (builder : InlineBuilder) :
    tokens.foldl step builder = builder.addText text := by
  induction spells generalizing builder with
  | done => rfl
  | @piece token text tokens type later induction =>
      have role : token.role = .text token.content := by simp [InlineToken.role, type]
      rw [List.foldl_cons, induction, step, role]
      exact addText_addText builder token.content text
  | @lineBreak token text tokens type later induction =>
      have role : token.role = .text "\n" := by
        rcases type with type | type <;> simp [InlineToken.role, type]
      rw [List.foldl_cons, induction, step, role]
      exact addText_addText builder "\n" text

end InlineBuilder

/-! ## Tokens of nodes -/

theorem InlineToken.role_of_unknown {token : InlineToken} (unknown : token.type ∉ inlineTypes) :
    token.role =
      .node (.unknown token.type token.content (firstNonempty token.content token.markup)) := by
  simp only [inlineTypes, List.mem_cons, List.not_mem_nil, or_false, not_or] at unknown
  unfold InlineToken.role
  split <;> simp_all

/-- A token that stands for a node adds that node, which is not running text. -/
theorem InlineToken.Denotes.role_eq {token : InlineToken} {node : Inline}
    (denotes : token.Denotes node) : token.role = .node node ∧ node.isPlain = false := by
  cases node with
  | literal form text raw =>
      cases form with
      | plain => cases denotes
      | _ =>
          obtain ⟨type, rfl, rfl⟩ := denotes
          exact ⟨by simp [InlineToken.role, type], rfl⟩
  | image source alt title raw =>
      obtain ⟨type, rfl, rfl, rfl, rfl⟩ := denotes
      exact ⟨by simp [InlineToken.role, type, InlineToken.imageNode], rfl⟩
  | unknown kind text raw =>
      obtain ⟨rfl, strange, rfl, rfl⟩ := denotes
      exact ⟨InlineToken.role_of_unknown strange, rfl⟩
  | marked mark text children raw => cases denotes
  | link text url title children raw => cases denotes

theorem InlineToken.role_openType {token : InlineToken} {mark : Mark}
    (type : token.type = mark.openType) : token.role = .opening (.mark mark token.markup) := by
  cases mark <;> simp [InlineToken.role, type, Mark.openType]

theorem InlineToken.role_closeType {token : InlineToken} {mark : Mark}
    (type : token.type = mark.closeType) : token.role = .closing := by
  cases mark <;> simp [InlineToken.role, type, Mark.closeType]

/-! ## Text of containers -/

namespace Inline

theorem plainText_eq {node : Inline} (normal : node.IsNormal) :
    node.plainText = node.leafText := by
  cases node with
  | marked mark text children raw => exact normal.1
  | link text url title children raw => exact normal.1
  | _ => rfl

/-- Siblings are flattened to the text of their leaves when each of them stands for its leaves. -/
theorem flatten_eq_allLeafText {nodes : List Inline}
    (faithful : ∀ node ∈ nodes, node.plainText = node.leafText) :
    flatten nodes = allLeafText nodes := by
  induction nodes with
  | nil => rfl
  | cons node nodes induction =>
      obtain ⟨first, others⟩ := List.forall_mem_cons.mp faithful
      have later : String.join (nodes.map plainText) = allLeafText nodes := induction others
      rw [flatten, List.map_cons, String.join_cons, later, first, allLeafText]

theorem AllNormal.isNormal {nodes : List Inline} (normal : AllNormal nodes) :
    ∀ node ∈ nodes, node.IsNormal := by
  induction nodes with
  | nil => simp
  | cons node nodes induction =>
      exact List.forall_mem_cons.mpr ⟨normal.1, induction normal.2.2⟩

theorem flatten_eq {nodes : List Inline} (normal : AllNormal nodes) :
    flatten nodes = allLeafText nodes :=
  flatten_eq_allLeafText fun node member => plainText_eq (normal.isNormal node member)

end Inline

/-! ## Reading flattenings -/

namespace InlineBuilder

/-- Append nodes one after the other. -/
def addAll (nodes : List Inline) (builder : InlineBuilder) : InlineBuilder :=
  { builder with nodes := nodes.reverse ++ builder.nodes }

theorem addAll_addNode (node : Inline) (nodes : List Inline) (builder : InlineBuilder) :
    (builder.addNode node).addAll nodes = builder.addAll (node :: nodes) := by
  simp [addAll, addNode]

theorem apart_addNode {node : Inline} (other : node.isPlain = false) (builder : InlineBuilder) :
    (builder.addNode node).Apart := by
  simpa [Apart, addNode] using other

theorem apart_enter (start : Opening) (builder : InlineBuilder) :
    (builder.enter start).Apart := by
  simp [Apart, enter]

/-- When the tokens inside a container add its children, the container adds one node. -/
theorem foldl_step_container {opening closing : InlineToken} {inner : List InlineToken}
    {start : Opening} {children : List Inline} (builder : InlineBuilder)
    (opens : opening.role = .opening start) (closes : closing.role = .closing)
    (inside : inner.foldl step (builder.enter start) = (builder.enter start).addAll children)
    (tokens : List InlineToken) :
    (opening :: inner ++ closing :: tokens).foldl step builder =
      tokens.foldl step (builder.addNode (start.close children)) := by
  have entered : builder.step opening = builder.enter start := by rw [step, opens]
  have left : ((builder.enter start).addAll children).step closing =
      builder.addNode (start.close children) := by
    rw [step, closes]
    simp [enter, addAll, leave, addNode]
  rw [List.cons_append, List.foldl_cons, List.foldl_append, List.foldl_cons, entered, inside,
    left]

/-- The tokens of a normal forest add its trees; a text in front must not meet running text. -/
theorem foldl_step_flattening {forest : List Inline} {tokens : List InlineToken}
    (flattening : Flattening forest tokens) (normal : Inline.AllNormal forest)
    (builder : InlineBuilder) (apart : ∀ first ∈ forest.head?, first.isPlain → builder.Apart) :
    tokens.foldl step builder = builder.addAll forest := by
  -- Only running text cares what stands last: every other node leaves the builder apart.
  induction flattening generalizing builder with
  | nil => rfl
  | @empty nodes token tokens type content later induction =>
      have role : token.role = .text "" := by simp [InlineToken.role, type, content]
      rw [List.foldl_cons, step, role]
      exact induction normal builder apart
  | @text nodes text raw pieces tokens spelled later induction =>
      obtain ⟨⟨filled, rfl⟩, next, others⟩ := normal
      rw [List.foldl_append, foldl_step_spells spelled, addText_apart (apart _ rfl rfl) filled,
        induction others, addAll_addNode]
      intro first member plain
      rw [next rfl first member] at plain
      cases plain
  | @leaf node nodes token tokens denotes later induction =>
      obtain ⟨role, other⟩ := denotes.role_eq
      have last : (builder.addNode node).Apart := apart_addNode other builder
      rw [List.foldl_cons, step, role]
      exact (induction normal.2.2 _ fun _ _ _ => last).trans (addAll_addNode node nodes builder)
  | @marked mark text raw children nodes opening closing inner tokens opens source inside closes
      later insideInduction laterInduction =>
      obtain ⟨⟨rfl, -, below⟩, -, others⟩ := normal
      have read := foldl_step_container builder (InlineToken.role_openType opens)
        (InlineToken.role_closeType closes)
        (insideInduction below _ fun _ _ _ => apart_enter _ builder) tokens
      rw [read, Opening.close, Inline.flatten_eq below, source, laterInduction others,
        addAll_addNode]
      exact fun _ _ _ => apart_addNode rfl builder
  | @link text url raw title children nodes opening closing inner tokens opens target titled inside
      closes later insideInduction laterInduction =>
      obtain ⟨⟨rfl, rfl, below⟩, -, others⟩ := normal
      have openRole : opening.role = .opening (.link url title) := by
        simp [InlineToken.role, opens, target, titled]
      have closeRole : closing.role = .closing := by simp [InlineToken.role, closes]
      have read := foldl_step_container builder openRole closeRole
        (insideInduction below _ fun _ _ _ => apart_enter _ builder) tokens
      rw [read, Opening.close, Inline.flatten_eq below, laterInduction others, addAll_addNode]
      exact fun _ _ _ => apart_addNode rfl builder

end InlineBuilder

/-! ## Every normal forest can be written -/

/-- The attributes of a token as far as they are present. -/
def textAttributes (entries : List (String × Option String)) : List (String × AttributeValue) :=
  entries.filterMap fun (name, value) => value.map fun value => (name, .text value)

/-- A token for an image, with its text in both places. -/
def imageToken (source : String) (alt title : Option String) : InlineToken where
  type := "image"
  content := alt.getD ""
  attributes := textAttributes [("src", some source), ("alt", alt), ("title", title)]

theorem denotes_imageToken (source : String) (alt title : Option String) :
    (imageToken source alt title).Denotes
      (.image source alt title ("![" ++ alt.getD "" ++ "](" ++ source ++ ")")) := by
  refine ⟨rfl, ?_, ?_, ?_, rfl⟩
  · rfl
  · cases alt with
    | none => cases title <;> rfl
    | some alt =>
        by_cases nothing : alt = ""
        · subst nothing
          rfl
        · simp [imageToken, nothing]
  · cases alt <;> cases title <;> rfl

mutual

/-- A normal node can be written in front of whatever is written behind it. -/
theorem Inline.exists_flattening_cons (node : Inline) (normal : node.IsNormal) :
    ∃ first, ∀ {nodes : List Inline} {tokens : List InlineToken},
      Flattening nodes tokens → Flattening (node :: nodes) (first ++ tokens) := by
  cases node with
  | literal form text raw =>
      cases form with
      | plain =>
          exact ⟨[{ type := "text", content := text }], .text (.single text)⟩
      | escaped =>
          obtain ⟨markup, rfl⟩ := normal
          exact ⟨[{ type := "text_special", content := text, markup }], .leaf ⟨rfl, rfl, rfl⟩⟩
      | code =>
          obtain ⟨markup, rfl⟩ := normal
          exact ⟨[{ type := "code_inline", content := text, markup }], .leaf ⟨rfl, rfl, rfl⟩⟩
      | html =>
          obtain rfl := normal
          exact ⟨[{ type := "html_inline", content := raw }], .leaf ⟨rfl, rfl, rfl⟩⟩
  | marked mark text children raw =>
      obtain ⟨-, ⟨markup, rfl⟩, below⟩ := normal
      obtain ⟨inner, inside⟩ := Inline.exists_flattening children below
      let opening : InlineToken := { type := mark.openType, markup }
      let closing : InlineToken := { type := mark.closeType }
      refine ⟨opening :: inner ++ [closing], ?_⟩
      intro nodes tokens later
      rw [List.append_assoc]
      exact .marked rfl rfl inside rfl later
  | link text url title children raw =>
      obtain ⟨-, -, below⟩ := normal
      obtain ⟨inner, inside⟩ := Inline.exists_flattening children below
      let opening : InlineToken :=
        { type := "link_open"
          attributes := textAttributes [("href", some url), ("title", title)] }
      let closing : InlineToken := { type := "link_close" }
      have titled : opening.attributeText? "title" = title := by cases title <;> rfl
      refine ⟨opening :: inner ++ [closing], ?_⟩
      intro nodes tokens later
      rw [List.append_assoc]
      exact .link rfl rfl titled inside rfl later
  | image source alt title raw =>
      obtain rfl := normal
      exact ⟨[imageToken source alt title], .leaf (denotes_imageToken source alt title)⟩
  | unknown kind text raw =>
      obtain ⟨strange, markup, rfl⟩ := normal
      exact ⟨[{ type := kind, content := text, markup }], .leaf ⟨rfl, strange, rfl, rfl⟩⟩

theorem Inline.exists_flattening (forest : List Inline) (normal : Inline.AllNormal forest) :
    ∃ tokens, Flattening forest tokens := by
  cases forest with
  | nil => exact ⟨[], .nil⟩
  | cons node forest =>
      obtain ⟨first, extend⟩ := Inline.exists_flattening_cons node normal.1
      obtain ⟨tokens, later⟩ := Inline.exists_flattening forest normal.2.2
      exact ⟨first ++ tokens, extend later⟩

end

/-- A normal forest can be written as tokens, and reading any of the ways to write it gives the
forest back.  So it never matters where text is cut and how its line feeds are written. -/
theorem Inline.ofTokens_flattening {forest : List Inline} (normal : Inline.AllNormal forest) :
    (∃ tokens, Flattening forest tokens) ∧
      ∀ tokens, Flattening forest tokens → Inline.ofTokens tokens = forest := by
  refine ⟨Inline.exists_flattening forest normal, fun tokens flattening => ?_⟩
  have fresh : ({} : InlineBuilder).Apart := by simp [InlineBuilder.Apart]
  have read := InlineBuilder.foldl_step_flattening flattening normal {} fun _ _ _ => fresh
  rw [Inline.ofTokens, read]
  simp [InlineBuilder.addAll, InlineBuilder.finish, InlineBuilder.unwind]

/-- Text over two lines, and bold text around a link that holds an image. -/
def cutForest : List Inline :=
  [.literal .plain "a\nb" "a\nb",
    .marked .strong "xyi" [
      .literal .plain "x" "x",
      .link "yi" "u" none [
        .literal .plain "y" "y",
        .image "s" (some "i") none "![i](s)"] "[yi](u)"] "__xyi__"]

/-- The text over two lines in four pieces, one of them empty. -/
def cutText : List InlineToken :=
  [{ type := "text", content := "a" }, { type := "softbreak" }, { type := "text" },
    { type := "text", content := "b" }]

/-- The link, with empty text behind its image. -/
def cutLink : List InlineToken :=
  { type := "link_open", attributes := [("href", .text "u")] } ::
      ([{ type := "text", content := "y" }] ++
        [{ type := "image", content := "i", attributes := [("src", .text "s")] },
          { type := "text" }]) ++
    { type := "link_close" } :: []

/-- The bold text, with empty text in front of what it holds. -/
def cutStrong : List InlineToken :=
  { type := "strong_open", markup := "__" } ::
      ({ type := "text" } :: ([{ type := "text", content := "x" }] ++ cutLink)) ++
    { type := "strong_close" } :: []

theorem spells_cutText : Spells "a\nb" cutText := by
  have spelled : Spells _ cutText :=
    .piece rfl (.lineBreak (.inl rfl) (.piece rfl (.piece rfl .done)))
  have whole : "a" ++ ("\n" ++ ("" ++ ("b" ++ ""))) = "a\nb" := by decide
  rw [← whole]
  exact spelled

theorem flattening_cutForest : Flattening cutForest (cutText ++ cutStrong) := by
  refine .text spells_cutText (.marked rfl (by decide) (.empty rfl rfl ?_) rfl .nil)
  refine .text (.single "x") (.link rfl rfl rfl (.text (.single "y") ?_) rfl .nil)
  exact .leaf ⟨rfl, rfl, rfl, rfl, rfl⟩ (.empty rfl rfl .nil)

theorem allNormal_cutForest : Inline.AllNormal cutForest := by
  have marked : ∃ markup, "__xyi__" = markup ++ "xyi" ++ markup := ⟨"__", by decide⟩
  simp [cutForest, Inline.AllNormal, Inline.IsNormal, Inline.allLeafText, Inline.leafText,
    Inline.isPlain, marked]

/-- Text that was cut at a line break and next to empty pieces is read as it was. -/
theorem Inline.ofTokens_flattening_cut :
    Inline.AllNormal cutForest ∧ Flattening cutForest (cutText ++ cutStrong) ∧
      Inline.ofTokens (cutText ++ cutStrong) = cutForest :=
  ⟨allNormal_cutForest, flattening_cutForest,
    (Inline.ofTokens_flattening allNormal_cutForest).2 _ flattening_cutForest⟩

end CardPress
