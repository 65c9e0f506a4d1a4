import CardPress.Document.Tables
import CardPress.Text.Digits

/-!
# Blocks from tokens

Block tokens become blocks.  Lists are kept as source, so that their tokens are passed over; quotes
are read against lines without their markers.  Between two siblings stands one node for each blank
line, except behind a thematic break, to which its blank lines belong.
-/

namespace CardPress

/-- What a block token means for the page. -/
inductive BlockRole where
  | heading
  | paragraph
  | list (ordered : Bool)
  | code
  | rule
  | table
  | quote
  | html
  | definition
  /-- The start of a container without a meaning. -/
  | unknownContainer (kind : String)
  /-- A token without a meaning. -/
  | unknownLeaf
  /-- A closing token, which is passed over. -/
  | closing
  deriving DecidableEq, Repr

/-- The name of a container: its type without the word for opening it. -/
def containerKind (type : String) : String :=
  let chars := type.toList
  let suffix := "_open".toList
  if suffix.isSuffixOf chars then String.ofList (chars.take (chars.length - suffix.length))
  else type

/-- What a block token means for the page. -/
def BlockToken.role (token : BlockToken) : BlockRole :=
  match token.type with
  | "heading_open" => .heading
  | "paragraph_open" => .paragraph
  | "bullet_list_open" => .list false
  | "ordered_list_open" => .list true
  | "fence" => .code
  | "code_block" => .code
  | "hr" => .rule
  | "table_open" => .table
  | "blockquote_open" => .quote
  | "html_block" => .html
  | "definition" => .definition
  | type =>
      if token.nesting = 1 then .unknownContainer (containerKind type)
      else if token.nesting = 0 then .unknownLeaf
      else .closing

/-- The distance from an opening token to the next closing one on a level, looking at the tokens
behind the opening one; without a closing token, the distance to the last token. -/
def closeDistance (level : Int) (rest : List BlockToken) : Nat :=
  match rest.findIdx? fun token => token.nesting = -1 ∧ token.level = level with
  | some index => index + 1
  | none => rest.length

/-- A text without the line feeds at its end. -/
def dropLineFeeds (text : String) : String :=
  String.ofList (text.toList.reverse.dropWhile (· = '\n')).reverse

/-- The level in the tag of a heading. -/
def headingLevel (tag : String) : Except ReadError Int :=
  match tag.toList with
  | _ :: c :: _ =>
      match Text.digitValue? c with
      | some level => .ok level
      | none => .error (.headingLevel c)
  | _ => .error .missing

/-- A text, unless it is missing or empty. -/
def presentText : Option String → Option String
  | some text => if text.isEmpty then none else some text
  | none => none

/-- The block of a link definition. -/
def DefinitionInfo.block (info : DefinitionInfo) (raw : String) : Block :=
  let label := (presentText info.label <|> presentText info.id).getD ""
  .definition label (info.url.getD "") (presentText info.title) raw

/-- The block of a paragraph, which is an image when it holds one and nothing else. -/
def paragraphBlock (inlines : List Inline) (raw : String) : Block :=
  match inlines with
  | [.image source alt title _] => .image source alt title raw
  | _ => .paragraph inlines raw

/-- What has been seen of the siblings in front of a block. -/
structure Sibling where
  /-- The end of the content of the last sibling that covers lines. -/
  stop : Option Int := none
  /-- Whether that sibling is a thematic break. -/
  isRule : Bool := false
  deriving DecidableEq, Repr

/-- The blank lines between the last sibling and a token. -/
def Sibling.gap (lines : List String) (sibling : Sibling) (token : BlockToken) : List Block :=
  match token.span, sibling.stop with
  | some span, some stop => if sibling.isRule then [] else spacesBetween lines stop span.1
  | _, _ => []

/-- What is known of the siblings behind a token. -/
def Sibling.after (lines : List String) (sibling : Sibling) (token : BlockToken) :
    Except ReadError Sibling :=
  match token.span with
  | some span => do
      return { stop := some (← contentEnd lines span), isRule := token.type = "hr" }
  | none => .ok sibling

/-- Read tokens as blocks up to the first one of a stop type, and count the tokens gone over. -/
def readBlocks (stops : List String) (lines : List String) (sibling : Sibling) :
    List BlockToken → Except ReadError (List Block × Nat)
  | [] => .ok ([], 0)
  | token :: rest =>
      if stops.contains token.type then .ok ([], 0)
      else do
        let gap := sibling.gap lines token
        let sibling ← sibling.after lines token
        let raw ← rawText lines token.span
        match token.role with
        | .heading =>
            let inlines ← contentOf rest
            let level ← headingLevel token.tag
            let (blocks, count) ← readBlocks stops lines sibling (rest.drop 2)
            return (gap ++ .heading level inlines raw :: blocks, count + 3)
        | .paragraph =>
            let inlines ← contentOf rest
            let (blocks, count) ← readBlocks stops lines sibling (rest.drop 2)
            return (gap ++ paragraphBlock inlines raw :: blocks, count + 3)
        | .list ordered =>
            let width := closeDistance token.level rest
            let (blocks, count) ← readBlocks stops lines sibling (rest.drop width)
            return (gap ++ .list ordered raw :: blocks, count + width + 1)
        | .code =>
            let block := Block.code (fenceLanguage token.info) (dropLineFeeds token.content) raw
            let (blocks, count) ← readBlocks stops lines sibling rest
            return (gap ++ block :: blocks, count + 1)
        | .rule =>
            let (blocks, count) ← readBlocks stops lines sibling rest
            return (gap ++ .rule raw :: blocks, count + 1)
        | .table =>
            let (cells, width) ← readTable rest
            let block := Block.table cells.header cells.rows raw
            let (blocks, count) ← readBlocks stops lines sibling (rest.drop width)
            return (gap ++ block :: blocks, count + width + 1)
        | .quote =>
            match token.span with
            | none => throw .unmappedQuote
            | some span =>
                let inner ← dropQuoteMarkers lines span
                let (children, width) ← readBlocks ["blockquote_close"] inner {} rest
                let (blocks, count) ← readBlocks stops lines sibling (rest.drop (width + 1))
                return (gap ++ .quote children raw :: blocks, count + width + 2)
        | .html =>
            let (blocks, count) ← readBlocks stops lines sibling rest
            return (gap ++ .html (dropLineFeeds token.content) :: blocks, count + 1)
        | .definition =>
            let (blocks, count) ← readBlocks stops lines sibling rest
            return (gap ++ token.definition.block raw :: blocks, count + 1)
        | .unknownContainer kind =>
            let width := closeDistance token.level rest
            let (blocks, count) ← readBlocks stops lines sibling (rest.drop width)
            return (gap ++ .unknown kind raw :: blocks, count + width + 1)
        | .unknownLeaf =>
            let block := Block.unknown token.type (firstNonempty raw token.content)
            let (blocks, count) ← readBlocks stops lines sibling rest
            return (gap ++ block :: blocks, count + 1)
        | .closing =>
            let (blocks, count) ← readBlocks stops lines sibling rest
            return (gap ++ blocks, count + 1)
  termination_by tokens => tokens.length
  decreasing_by all_goals (simp only [List.length_cons, List.length_drop]; omega)

/-- The tokens from an index on; a negative index starts that far from the end, and the tokens
from the first one on follow. -/
def tokensFrom? (tokens : List BlockToken) (index : Int) : Except ReadError (List BlockToken) :=
  if 0 ≤ index then .ok (tokens.drop index.toNat)
  else if 0 ≤ tokens.length + index then
    .ok (tokens.drop (tokens.length + index).toNat ++ tokens)
  else
    .error .missing

/-- The blocks of the tokens from an index on, and the index behind the last token gone over. -/
def Block.ofTokens (stops lines : List String) (tokens : List BlockToken) (index : Int) :
    Except ReadError (List Block × Int) := do
  let (blocks, count) ← readBlocks stops lines {} (← tokensFrom? tokens index)
  return (blocks, index + count)

/-- The index of the token that closes the container opened at an index. -/
def closeIndex (tokens : List BlockToken) (index : Int) : Except ReadError Int := do
  if (tokens.length : Int) ≤ index then throw .missing
  match ← tokensFrom? tokens index with
  | [] => throw .missing
  | token :: rest => return index + closeDistance token.level rest

end CardPress
