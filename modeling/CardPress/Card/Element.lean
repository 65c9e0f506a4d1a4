import CardPress.Text.CodeText

/-!
# Card elements

The vocabulary of an Adaptive Card: attribute values with their wire names, text runs, and the
elements that make up the body.
-/

namespace CardPress

/-- Space above an element, from the narrowest step to the widest. -/
inductive Spacing where
  | none
  | extraSmall
  | small
  | medium
  | large
  | extraLarge
  deriving DecidableEq, Repr

namespace Spacing

/-- The wire name of a spacing step. -/
def name : Spacing → String
  | none => "None"
  | extraSmall => "ExtraSmall"
  | small => "Small"
  | medium => "Medium"
  | large => "Large"
  | extraLarge => "ExtraLarge"

/-- The next step of the ladder; the widest step stays. -/
def next : Spacing → Spacing
  | none => extraSmall
  | extraSmall => small
  | small => medium
  | medium => large
  | large => extraLarge
  | extraLarge => extraLarge

/-- One step up the ladder, where an unset spacing counts as its bottom. -/
def escalate (current : Option Spacing) : Spacing :=
  (current.getD none).next

/-- The ladder from the narrowest step to the widest. -/
def ladder : List Spacing :=
  [none, extraSmall, small, medium, large, extraLarge]

/-- The spacing with a given wire name. -/
def ofName? (text : String) : Option Spacing :=
  ladder.find? fun spacing => spacing.name == text

theorem ofName?_name (spacing : Spacing) : ofName? spacing.name = some spacing := by
  cases spacing <;> decide

end Spacing

/-- Size of text. -/
inductive TextSize where
  | small
  | default
  | medium
  | large
  | extraLarge
  deriving DecidableEq, Repr

namespace TextSize

/-- The wire name of a text size. -/
def name : TextSize → String
  | small => "Small"
  | default => "Default"
  | medium => "Medium"
  | large => "Large"
  | extraLarge => "ExtraLarge"

/-- The text size with a given wire name. -/
def ofName? (text : String) : Option TextSize :=
  [small, default, medium, large, extraLarge].find? fun size => size.name == text

end TextSize

/-- Weight of text. -/
inductive TextWeight where
  | lighter
  | default
  | bolder
  deriving DecidableEq, Repr

namespace TextWeight

/-- The wire name of a text weight. -/
def name : TextWeight → String
  | lighter => "Lighter"
  | default => "Default"
  | bolder => "Bolder"

/-- The text weight with a given wire name. -/
def ofName? (text : String) : Option TextWeight :=
  [lighter, default, bolder].find? fun weight => weight.name == text

end TextWeight

/-- Colour of text. -/
inductive TextColor where
  | default
  | accent
  deriving DecidableEq, Repr

namespace TextColor

/-- The wire name of a text colour. -/
def name : TextColor → String
  | default => "Default"
  | accent => "Accent"

/-- The text colour with a given wire name. -/
def ofName? (text : String) : Option TextColor :=
  [default, accent].find? fun color => color.name == text

end TextColor

/-- Typeface of text. -/
inductive FontType where
  | default
  | monospace
  deriving DecidableEq, Repr

namespace FontType

/-- The wire name of a typeface. -/
def name : FontType → String
  | default => "Default"
  | monospace => "Monospace"

/-- The typeface with a given wire name. -/
def ofName? (text : String) : Option FontType :=
  [default, monospace].find? fun font => font.name == text

end FontType

/-- Style of a container or a table row. -/
inductive ContainerStyle where
  | default
  | emphasis
  deriving DecidableEq, Repr

namespace ContainerStyle

/-- The wire name of a container style. -/
def name : ContainerStyle → String
  | default => "default"
  | emphasis => "emphasis"

/-- The container style with a given wire name. -/
def ofName? (text : String) : Option ContainerStyle :=
  [default, emphasis].find? fun style => style.name == text

end ContainerStyle

/-- A run of text with one appearance; unset attributes are left to the host. -/
structure TextRun where
  text : String
  weight : Option TextWeight := none
  italic : Option Bool := none
  strikethrough : Option Bool := none
  fontType : Option FontType := none
  color : Option TextColor := none
  size : Option TextSize := none
  /-- Address that is opened when the run is selected. -/
  opens : Option String := none
  deriving DecidableEq, Repr

/-- How an element is set off from the one before it. -/
structure Placement where
  spacing : Option Spacing := none
  separator : Bool := false
  deriving DecidableEq, Repr, Inhabited

/-- Width of a table column. -/
inductive ColumnWidth where
  /-- A share of the width that is left. -/
  | weight (share : Int)
  /-- A width in words or with a unit. -/
  | named (text : String)
  deriving DecidableEq, Repr

/-- A table column, with no configuration unless its width is set. -/
structure Column where
  width : Option ColumnWidth := none
  deriving DecidableEq, Repr

/-- An element of a card's body; table rows and cells are elements as well. -/
inductive Element where
  /-- An element with no content of its own. -/
  | bare (placement : Placement)
  | textBlock (text : String) (wrap : Option Bool) (size : Option TextSize)
      (weight : Option TextWeight) (placement : Placement)
  | richText (runs : List TextRun) (placement : Placement)
  | code (snippet : String) (language : Option String) (placement : Placement)
  | container (items : List Element) (showBorder : Option Bool) (placement : Placement)
  | image (url : String) (altText : Option String) (placement : Placement)
  | tableCell (items : List Element) (placement : Placement)
  | tableRow (cells : List Element) (style : Option ContainerStyle) (placement : Placement)
  | table (columns : List Column) (rows : List Element) (placement : Placement)
  deriving Repr, Inhabited

namespace Element

/-- The placement of an element. -/
def placement : Element → Placement
  | bare placement => placement
  | textBlock _ _ _ _ placement => placement
  | richText _ placement => placement
  | code _ _ placement => placement
  | container _ _ placement => placement
  | image _ _ placement => placement
  | tableCell _ placement => placement
  | tableRow _ _ placement => placement
  | table _ _ placement => placement

/-- The same element placed differently. -/
def place (placement : Placement) : Element → Element
  | bare _ => bare placement
  | textBlock text wrap size weight _ => textBlock text wrap size weight placement
  | richText runs _ => richText runs placement
  | code snippet language _ => code snippet language placement
  | container items showBorder _ => container items showBorder placement
  | image url altText _ => image url altText placement
  | tableCell items _ => tableCell items placement
  | tableRow cells style _ => tableRow cells style placement
  | table columns rows _ => table columns rows placement

/-- Set an element off from the one before it by a line. -/
def separate (element : Element) : Element :=
  element.place { element.placement with separator := true }

/-- Widen the spacing of an element by one step. -/
def widen (element : Element) : Element :=
  element.place { element.placement with spacing := some (.escalate element.placement.spacing) }

@[simp]
theorem placement_place (placement : Placement) (element : Element) :
    (element.place placement).placement = placement := by
  cases element <;> rfl

@[simp]
theorem place_place (first second : Placement) (element : Element) :
    (element.place first).place second = element.place second := by
  cases element <;> rfl

@[simp]
theorem place_placement (element : Element) : element.place element.placement = element := by
  cases element <;> rfl

end Element

/-- A whole card. -/
structure Card where
  body : List Element := []
  version : CodeText := "1.5"
  schema : CodeText := "http://adaptivecards.io/schemas/adaptive-card.json"
  lang : Option CodeText := none
  fallbackText : Option CodeText := none
  deriving Repr, Inhabited

end CardPress
