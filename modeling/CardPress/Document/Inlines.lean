import CardPress.Document.Node
import CardPress.Markdown.Token

/-!
# Inline nodes from tokens

Inline tokens become a tree: an opening token starts a container, and the next closing token of any
type ends it.  Neighbouring pieces of text are one node.  A container that is closed takes the
flattened text of its children; one that is never closed keeps its children without it.
-/

namespace CardPress

/-- A container that has been opened. -/
inductive Opening where
  | mark (form : Mark) (markup : String)
  | link (url : String) (title : Option String)
  deriving DecidableEq, Repr

namespace Opening

/-- The node of a container that was closed. -/
def close (children : List Inline) : Opening → Inline
  | mark form markup =>
      let text := Inline.flatten children
      .marked form text children (markup ++ text ++ markup)
  | link url title =>
      let text := Inline.flatten children
      .link text url title children ("[" ++ text ++ "](" ++ url ++ ")")

/-- The node of a container that was never closed. -/
def abandon (children : List Inline) : Opening → Inline
  | mark form markup => .marked form "" children markup
  | link url title => .link "" url title children ""

end Opening

/-- What an inline token means for the tree. -/
inductive InlineRole where
  | text (content : String)
  | node (node : Inline)
  | opening (opening : Opening)
  | closing

/-- A token's attribute as text, when it has one. -/
def InlineToken.attributeText? (token : InlineToken) (name : String) : Option String :=
  (token.attribute? name).map AttributeValue.plain

/-- A token's attribute as text, which is empty when it is missing or zero. -/
def InlineToken.attributeText (token : InlineToken) (name : String) : String :=
  ((token.attribute? name).map AttributeValue.plainOrEmpty).getD ""

/-- The first of two texts that is not empty. -/
def firstNonempty (first second : String) : String :=
  if first.isEmpty then second else first

/-- The node of an image token. -/
def InlineToken.imageNode (token : InlineToken) : Inline :=
  let source := token.attributeText "src"
  let alt := if token.content.isEmpty then token.attributeText? "alt" else some token.content
  .image source alt (token.attributeText? "title")
    ("![" ++ alt.getD "" ++ "](" ++ source ++ ")")

/-- What an inline token means for the tree. -/
def InlineToken.role (token : InlineToken) : InlineRole :=
  let content := token.content
  match token.type with
  | "text" => .text content
  | "softbreak" => .text "\n"
  | "hardbreak" => .text "\n"
  | "text_special" =>
      .node (.literal .escaped content (firstNonempty token.markup content))
  | "strong_open" => .opening (.mark .strong token.markup)
  | "em_open" => .opening (.mark .emphasis token.markup)
  | "s_open" => .opening (.mark .strikethrough token.markup)
  | "link_open" =>
      .opening (.link (token.attributeText "href") (token.attributeText? "title"))
  | "strong_close" => .closing
  | "em_close" => .closing
  | "s_close" => .closing
  | "link_close" => .closing
  | "code_inline" =>
      .node (.literal .code content (token.markup ++ content ++ token.markup))
  | "html_inline" => .node (.literal .html content content)
  | "image" => .node token.imageNode
  | type => .node (.unknown type content (firstNonempty content token.markup))

/-- The nodes read so far, and the containers that are open. -/
structure InlineBuilder where
  /-- The nodes of the innermost container, last one first. -/
  nodes : List Inline := []
  /-- The open containers, innermost first, each with the nodes in front of it. -/
  outer : List (Opening × List Inline) := []

namespace InlineBuilder

/-- Append text, joining it to a text node that stands last; an empty text changes nothing. -/
def addText (content : String) (builder : InlineBuilder) : InlineBuilder :=
  if content.isEmpty then builder
  else
    match builder.nodes with
    | .literal .plain text raw :: before =>
        { builder with nodes := .literal .plain (text ++ content) (raw ++ content) :: before }
    | nodes => { builder with nodes := .literal .plain content content :: nodes }

/-- Append a node. -/
def addNode (node : Inline) (builder : InlineBuilder) : InlineBuilder :=
  { builder with nodes := node :: builder.nodes }

/-- Start a container. -/
def enter (opening : Opening) (builder : InlineBuilder) : InlineBuilder :=
  { nodes := []
    outer := (opening, builder.nodes) :: builder.outer }

/-- End the innermost container, when there is one. -/
def leave (builder : InlineBuilder) : InlineBuilder :=
  match builder.outer with
  | [] => builder
  | (opening, before) :: outer =>
      { nodes := opening.close builder.nodes.reverse :: before
        outer }

/-- Take one token into account. -/
def step (builder : InlineBuilder) (token : InlineToken) : InlineBuilder :=
  match token.role with
  | .text content => builder.addText content
  | .node node => builder.addNode node
  | .opening opening => builder.enter opening
  | .closing => builder.leave

/-- The nodes of a container whose inner ones are never closed, last one first. -/
def unwind (nodes : List Inline) : List (Opening × List Inline) → List Inline
  | [] => nodes
  | (opening, before) :: outer => unwind (opening.abandon nodes.reverse :: before) outer

/-- All nodes, in order. -/
def finish (builder : InlineBuilder) : List Inline :=
  (unwind builder.nodes builder.outer).reverse

end InlineBuilder

/-- The inline nodes that a list of inline tokens stands for. -/
def Inline.ofTokens (tokens : List InlineToken) : List Inline :=
  (tokens.foldl InlineBuilder.step {}).finish

end CardPress
