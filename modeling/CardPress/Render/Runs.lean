import CardPress.Card.Element
import CardPress.Document.Node
import CardPress.Text.Quoted

/-!
# Text runs of inline nodes

Inline nodes become text runs, in order.  A formatting node adds its appearance to every run of
its children, or to one run of its own text when it has none.  A node without a meaning for cards
stops the conversion.
-/

namespace CardPress

/-- A node that has no mapping to a card, with its kind and the source it stands for. -/
inductive Unsupported where
  | block (kind raw : String)
  | inline (kind raw : String)
  deriving DecidableEq, Repr

namespace Unsupported

/-- The node's kind. -/
def kind : Unsupported → String
  | block kind _ => kind
  | inline kind _ => kind

/-- The source that the node stands for. -/
def raw : Unsupported → String
  | block _ raw => raw
  | inline _ raw => raw

/-- The report of a node that stopped a conversion. -/
def message : Unsupported → String
  | block kind raw => "Unsupported block node '" ++ kind ++ "': " ++ Text.quoted raw
  | inline kind raw => "Unsupported inline node '" ++ kind ++ "': " ++ Text.quoted raw

end Unsupported

/-- Add the appearance of a formatting mark to a run. -/
def Mark.style : Mark → TextRun → TextRun
  | strong, run => { run with weight := some .bolder }
  | emphasis, run => { run with italic := some true }
  | strikethrough, run => { run with strikethrough := some true }

/-- Make a run a link, in the colour of links. -/
def TextRun.linkTo (url : String) (run : TextRun) : TextRun :=
  { run with color := some .accent, opens := some url }

/-- The run of a piece of literal text: code and markup are set in a fixed width. -/
def Literal.run (form : Literal) (text : String) : TextRun :=
  match form with
  | plain | escaped => { text }
  | code | html => { text, fontType := some .monospace }

mutual

/-- The runs of one inline node. -/
def Inline.runs : Inline → Except Unsupported (List TextRun)
  | .literal form text _ => .ok [form.run text]
  | .marked mark text children _ => do
      let runs ← if children.isEmpty then pure [{ text }] else Inline.allRuns children
      return runs.map mark.style
  | .link text url _ children _ => do
      let runs ← if children.isEmpty then pure [{ text }] else Inline.allRuns children
      return runs.map (TextRun.linkTo url)
  | .image source alt title _ =>
      .ok [TextRun.linkTo source { text := title.getD (alt.getD "") }]
  | .unknown kind _ raw => .error (.inline kind raw)

/-- The runs of a list of inline nodes, up to the first that has no meaning for cards. -/
def Inline.allRuns : List Inline → Except Unsupported (List TextRun)
  | [] => .ok []
  | node :: nodes => do
      let runs ← node.runs
      return runs ++ (← Inline.allRuns nodes)

end

end CardPress
