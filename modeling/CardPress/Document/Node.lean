/-!
# Document nodes

The tree that a Markdown text is read into: inline nodes for running text and block nodes for the
parts of a page.  Every node keeps `raw`, the source that it stands for.
-/

namespace CardPress

/-- How a piece of literal inline text was written. -/
inductive Literal where
  /-- Running text. -/
  | plain
  /-- A character written with a backslash or as a character reference. -/
  | escaped
  /-- A code span. -/
  | code
  /-- Inline markup, kept as it was written. -/
  | html
  deriving DecidableEq, Repr

/-- The three formatting marks that enclose other inline nodes. -/
inductive Mark where
  | strong
  | emphasis
  | strikethrough
  deriving DecidableEq, Repr

/-- A node of running text. -/
inductive Inline where
  /-- Text without inner structure. -/
  | literal (form : Literal) (text raw : String)
  /-- Formatted text; `text` is the flattened text of the children. -/
  | marked (mark : Mark) (text : String) (children : List Inline) (raw : String)
  /-- A link; `text` is the flattened text of the children. -/
  | link (text url : String) (title : Option String) (children : List Inline) (raw : String)
  /-- An image inside running text. -/
  | image (source : String) (alt title : Option String) (raw : String)
  /-- An inline node that has no meaning for cards. -/
  | unknown (kind text raw : String)
  deriving Repr, Inhabited

namespace Inline

/-- The name of an inline node's kind. -/
def kind : Inline → String
  | literal .plain _ _ => "text"
  | literal .escaped _ _ => "escape"
  | literal .code _ _ => "codespan"
  | literal .html _ _ => "html"
  | marked .strong _ _ _ => "strong"
  | marked .emphasis _ _ _ => "em"
  | marked .strikethrough _ _ _ => "del"
  | link .. => "link"
  | image .. => "image"
  | unknown kind _ _ => kind

/-- The source that an inline node stands for. -/
def raw : Inline → String
  | literal _ _ raw => raw
  | marked _ _ _ raw => raw
  | link _ _ _ _ raw => raw
  | image _ _ _ raw => raw
  | unknown _ _ raw => raw

/-- The text that one node contributes to the flattened text of its parent. -/
def plainText : Inline → String
  | literal _ text _ => text
  | marked _ text _ _ => text
  | link text _ _ _ _ => text
  | image _ alt _ _ => alt.getD ""
  | unknown _ text _ => text

/-- The flattened text of a list of siblings. -/
def flatten (inlines : List Inline) : String :=
  String.join (inlines.map plainText)

end Inline

/-- A table cell holds running text. -/
abbrev Cell := List Inline

/-- A part of a page. -/
inductive Block where
  /-- A blank line between two siblings. -/
  | space (raw : String)
  /-- A thematic break. -/
  | rule (raw : String)
  | heading (level : Int) (inlines : List Inline) (raw : String)
  | paragraph (inlines : List Inline) (raw : String)
  /-- A list, which is kept as source. -/
  | list (ordered : Bool) (raw : String)
  | code (language : Option String) (code raw : String)
  | table (header : List Cell) (rows : List (List Cell)) (raw : String)
  | quote (blocks : List Block) (raw : String)
  /-- A paragraph that is one image and nothing else. -/
  | image (source : String) (alt title : Option String) (raw : String)
  /-- Block markup, kept as it was written. -/
  | html (raw : String)
  | definition (label url : String) (title : Option String) (raw : String)
  /-- A block that has no meaning for cards. -/
  | unknown (kind raw : String)
  deriving Repr, Inhabited

namespace Block

/-- The name of a block's kind. -/
def kind : Block → String
  | space _ => "space"
  | rule _ => "hr"
  | heading .. => "heading"
  | paragraph .. => "paragraph"
  | list .. => "list"
  | code .. => "code"
  | table .. => "table"
  | quote .. => "blockquote"
  | image .. => "image"
  | html _ => "html"
  | definition .. => "def"
  | unknown kind _ => kind

/-- The source that a block stands for. -/
def raw : Block → String
  | space raw => raw
  | rule raw => raw
  | heading _ _ raw => raw
  | paragraph _ raw => raw
  | list _ raw => raw
  | code _ _ raw => raw
  | table _ _ raw => raw
  | quote _ raw => raw
  | image _ _ _ raw => raw
  | html raw => raw
  | definition _ _ _ raw => raw
  | unknown _ raw => raw

end Block

/-- A page: its blocks, and the front matter above them when there is one. -/
structure Document where
  blocks : List Block
  /-- The text between the two fences at the top of the page. -/
  frontMatter : Option String
  deriving Repr, Inhabited

end CardPress
