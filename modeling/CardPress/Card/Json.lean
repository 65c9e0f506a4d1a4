import CardPress.Card.Element
import CardPress.Json.Printer

/-!
# Cards as JSON

The wire form of a card: every object starts with its type, attributes that are not set are left
out, and the placement of an element comes last.
-/

namespace CardPress

/-- A text run with the attributes that are set. -/
def TextRun.toJson (run : TextRun) : Json :=
  .ofFields
    [("type", some (.text "TextRun")),
      ("text", some (.text run.text)),
      ("size", run.size.map fun size => .text size.name),
      ("weight", run.weight.map fun weight => .text weight.name),
      ("color", run.color.map fun color => .text color.name),
      ("fontType", run.fontType.map fun font => .text font.name),
      ("italic", run.italic.map .bool),
      ("strikethrough", run.strikethrough.map .bool),
      ("selectAction", run.opens.map fun (url : String) =>
        .object [("type", .text "Action.OpenUrl"), ("url", .text url)])]

/-- A width as a number or as a text. -/
def ColumnWidth.toJson : ColumnWidth → Json
  | weight share => .integer share
  | named text => .text text

/-- A column, which is an empty object unless its width is set. -/
def Column.toJson (column : Column) : Json :=
  .ofFields [("width", column.width.map ColumnWidth.toJson)]

/-- The fields of a placement: a spacing that is set, and a separator that is there. -/
def Placement.fields (placement : Placement) : List (String × Option Json) :=
  [("spacing", placement.spacing.map fun spacing => .text spacing.name),
    ("separator", if placement.separator then some (.bool true) else none)]

mutual

/-- An element with the attributes that are set. -/
def Element.toJson : Element → Json
  | .bare placement => .ofFields (("type", some (.text "CardElement")) :: placement.fields)
  | .textBlock text wrap size weight placement =>
      .ofFields
        ([("type", some (.text "TextBlock")),
          ("text", some (.text text)),
          ("wrap", wrap.map .bool),
          ("size", size.map fun size => .text size.name),
          ("weight", weight.map fun weight => .text weight.name)] ++ placement.fields)
  | .richText runs placement =>
      .ofFields
        ([("type", some (.text "RichTextBlock")),
          ("inlines", some (.list (runs.map TextRun.toJson)))] ++ placement.fields)
  | .code snippet language placement =>
      .ofFields
        ([("type", some (.text "CodeBlock")),
          ("codeSnippet", some (.text snippet)),
          ("language", language.map fun (language : String) => .text language)] ++ placement.fields)
  | .container items showBorder placement =>
      .ofFields
        ([("type", some (.text "Container")),
          ("items", some (.list (Element.allToJson items))),
          ("showBorder", showBorder.map .bool)] ++ placement.fields)
  | .image url altText placement =>
      .ofFields
        ([("type", some (.text "Image")),
          ("url", some (.text url)),
          ("altText", altText.map fun (altText : String) => .text altText)] ++ placement.fields)
  | .tableCell items placement =>
      .ofFields
        ([("type", some (.text "TableCell")),
          ("items", some (.list (Element.allToJson items)))] ++ placement.fields)
  | .tableRow cells style placement =>
      .ofFields
        ([("type", some (.text "TableRow")),
          ("cells", some (.list (Element.allToJson cells))),
          ("style", style.map fun style => .text style.name)] ++ placement.fields)
  | .table columns rows placement =>
      .ofFields
        ([("type", some (.text "Table")),
          ("columns", some (.list (columns.map Column.toJson))),
          ("rows", some (.list (Element.allToJson rows)))] ++ placement.fields)

/-- The elements of a list, in order. -/
def Element.allToJson : List Element → List Json
  | [] => []
  | element :: elements => element.toJson :: Element.allToJson elements

end

/-- A whole card. -/
def Card.toJson (card : Card) : Json :=
  .ofFields
    [("type", some (.text "AdaptiveCard")),
      ("$schema", some (.text card.schema)),
      ("version", some (.text card.version)),
      ("lang", card.lang.map .text),
      ("fallbackText", card.fallbackText.map .text),
      ("body", some (.list (Element.allToJson card.body)))]

/-- A card as JSON text, on one line when no indentation is given. -/
def Card.serialize (card : Card) (indent : Option Nat) : CodeText :=
  card.toJson.print indent

end CardPress
