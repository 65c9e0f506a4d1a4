import CardPress.Card.Json
import CardPress.Document.Page
import CardPress.Options
import CardPress.Render.Pass

/-!
# Converting a page

A Markdown text becomes a card: the text is read, its front matter is laid over the options, and its
blocks are rendered.
-/

namespace CardPress

/-- Why a text cannot be converted. -/
inductive ConversionError where
  | page (error : PageError)
  | options (error : OptionsError)
  | unsupported (node : Unsupported)
  /-- There is no room for the indentation; `isWord` tells whether it fits a machine word. -/
  | indent (isWord : Bool)
  deriving Repr

/-- The report of a text that cannot be converted, where one is given. -/
def ConversionError.message? : ConversionError → Option String
  | page (.yaml failure) => failure.message?
  | page (.read _) => none
  | options error => error.message?
  | unsupported node => some node.message
  | indent _ => none

/-- A card with the settings of its options. -/
def CardOptions.card (options : CardOptions) (body : List Element) : Card :=
  { body
    version := options.version
    schema := options.schema
    lang := options.lang
    fallbackText := options.fallbackText }

/-- The options of a document: those of its front matter, laid over others. -/
def Document.options (host : Host) (document : Document) (options : CardOptions) :
    Except OptionsError CardOptions :=
  match document.frontMatter with
  | some text => if text.isEmpty then .ok options else options.overlayText host text
  | none => .ok options

/-- The card of a text, and the options that it was made with. -/
def convert (host : Host) (options : CardOptions) (text : String) :
    Except ConversionError (Card × CardOptions) := do
  let document ← (Document.parse host text).mapError .page
  let options ← (document.options host options).mapError .options
  let body ← (renderBody document.blocks).mapError .unsupported
  return (options.card body, options)

/-- A card as JSON text, if the host has room for the indentation. -/
def Card.serialize? (host : Host) (card : Card) (indent : Option Nat) :
    Except ConversionError CodeText :=
  match indent with
  | some width =>
      if host.hasRoom card.toJson width then .ok (card.serialize indent)
      else .error (.indent (width < Nat.pow 2 63))
  | none => .ok (card.serialize none)

/-- The card of a text as JSON text. -/
def convertToJson (host : Host) (options : CardOptions) (text : String) :
    Except ConversionError CodeText := do
  let (card, options) ← convert host options text
  card.serialize? host options.indent

/-- The card of a text as JSON text, or the report of why there is none. -/
def convertOrReport (host : Host) (options : CardOptions) (text : String) :
    Except ConversionError CodeText :=
  match convertToJson host options text with
  | .ok json => .ok json
  | .error error =>
      match error.message? with
      | some message => .ok ("Error: " ++ message : String)
      | none => .error error

/-- What happens while a text is converted. -/
inductive Note where
  /-- The text has been read as a number of blocks. -/
  | parsed (blocks : Nat)
  /-- A key of the options names no setting. -/
  | ignored (key : Yaml.Value)
  /-- A number of blocks is about to be rendered. -/
  | rendering (blocks : Nat)
  deriving Repr

/-- The keys that are ignored while a text of options is laid over others. -/
def ignoredNotes (host : Host) (text : String) : List Note :=
  match optionEntries host text with
  | .ok entries => (CardOptions.ignoredKeys entries).map .ignored
  | .error _ => []

/-- What happens while a text is converted, in order. -/
def conversionNotes (host : Host) (options : CardOptions) (text : String) : List Note :=
  match Document.parse host text with
  | .error _ => []
  | .ok document =>
      let count := document.blocks.length
      .parsed count :: ignoredNotes host (document.frontMatter.getD "") ++
        match document.options host options with
        | .ok _ => [.rendering count]
        | .error _ => []

end CardPress
