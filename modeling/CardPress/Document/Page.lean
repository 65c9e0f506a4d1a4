import CardPress.Document.Blocks
import CardPress.Markdown.Page
import CardPress.Yaml.Load

/-!
# Reading a page

A Markdown text is read as a document.  Front matter at its start is kept when it denotes a mapping,
or when it cannot be read, so that the fault is reported with the options; otherwise its fences are
thematic breaks.
-/

namespace CardPress

/-- Why a text cannot be read as a document. -/
inductive PageError where
  /-- A value in the front matter does not denote anything. -/
  | yaml (failure : Yaml.Failure)
  /-- The tokens do not form blocks. -/
  | read (error : ReadError)
  deriving DecidableEq, Repr

/-- Whether a text between two fences is front matter. -/
def isFrontMatter (host : Host) (content : String) : Except Yaml.Failure Bool :=
  match Yaml.load host content with
  | .ok (.mapping _) => .ok true
  | .ok _ => .ok false
  | .error .malformed => .ok true
  | .error failure => .error failure

/-- A document of tokens from an index on, read against the lines of a text. -/
def documentOf (text : String) (tokens : List BlockToken) (index : Int)
    (frontMatter : Option String) : Except PageError Document :=
  match Block.ofTokens [] (Text.lines text) tokens index with
  | .ok (blocks, _) => .ok { blocks, frontMatter }
  | .error error => .error (.read error)

/-- The front matter that tokens start with, whether or not it is kept. -/
def frontMatter? : List BlockToken → Option String
  | [] => none
  | token :: _ => if token.type == "front_matter" then some token.content else none

/-- The document that a Markdown text denotes. -/
def Document.parse (host : Host) (text : String) : Except PageError Document :=
  let tokens := Markdown.tokens true text
  match frontMatter? tokens with
  | none => documentOf text tokens 0 none
  | some content =>
      match isFrontMatter host content with
      | .ok true => documentOf text tokens 1 (some content)
      | .ok false => documentOf text (Markdown.tokens false text) 0 none
      | .error failure => .error (.yaml failure)

end CardPress
