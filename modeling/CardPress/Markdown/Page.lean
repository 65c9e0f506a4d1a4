import CardPress.Markdown.Blocks
import CardPress.Markdown.Inlines

/-!
# Pages

The tokens of a whole Markdown text.  Blocks are read first, since links may use definitions that
stand anywhere in the text.
-/

namespace CardPress
namespace Markdown

/-- A text with one kind of line ending, and without the null character. -/
def normalizeText (text : List Char) : List Char :=
  (Text.unifyEndings text).map fun c => if c = '\x00' then Url.replacement else c

/-- The target that a definition gives to its label. -/
def definedTarget? (token : BlockToken) : Option (List Char × Target) :=
  token.definition.id.map fun id =>
    (id.toList,
      { url := (token.definition.url.getD "").toList
        title := (token.definition.title.getD "").toList })

/-- A token with its running text read. -/
def readText (targets : List (List Char × Target)) (token : BlockToken) : BlockToken :=
  if token.type == "inline" then
    { token with children := inlineTokens targets token.content.toList }
  else
    token

/-- The tokens of a text, where front matter may be allowed at its start. -/
def tokens (frontMatter : Bool) (text : String) : List BlockToken :=
  let blocks := blockTokens frontMatter (normalizeText text.toList)
  let targets := blocks.filterMap definedTarget?
  blocks.map (readText targets)

end Markdown
end CardPress
