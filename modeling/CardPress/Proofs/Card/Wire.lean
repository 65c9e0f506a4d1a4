import CardPress.Card.Json
import CardPress.Proofs.Json.RoundTrip
import Mathlib.Data.List.Basic
import Mathlib.Data.Option.Basic

/-!
# Cards on the wire

Writing a card loses nothing: the text reads back as the fields that were written, at every
indentation, and the fields determine the card.  The classes of elements are told apart by their
type, and within a class every attribute has a key of its own, which is missing exactly when the
attribute is not set.
-/

namespace CardPress

/-! ## Objects of optional fields -/

namespace Json

/-- The fields that are set. -/
def present (fields : List (String × Option Json)) : List (String × Json) :=
  fields.filterMap fun (key, value) => value.map fun value => (key, value)

theorem ofFields_eq (fields : List (String × Option Json)) :
    ofFields fields = object (present fields) :=
  rfl

@[simp]
theorem present_none (key : String) (fields : List (String × Option Json)) :
    present ((key, none) :: fields) = present fields :=
  rfl

@[simp]
theorem present_some (key : String) (value : Json) (fields : List (String × Option Json)) :
    present ((key, some value) :: fields) = (key, value) :: present fields :=
  rfl

/-- The keys of the fields that are set are among all keys, in the same order. -/
theorem present_keys_sublist (fields : List (String × Option Json)) :
    ((present fields).map Prod.fst).Sublist (fields.map Prod.fst) := by
  induction fields with
  | nil => exact .slnil
  | cons field fields induction =>
      obtain ⟨key, value⟩ := field
      cases value with
      | none => exact induction.cons key
      | some value => exact induction.cons_cons key

/-- The fields that are set start with no key that is missing among all of them. -/
theorem present_ne_cons {key : String} {value : Json} {rest : List (String × Json)}
    {fields : List (String × Option Json)} (absent : key ∉ fields.map Prod.fst) :
    present fields ≠ (key, value) :: rest := by
  intro equal
  have sublist := present_keys_sublist fields
  rw [equal, List.map_cons] at sublist
  exact absent (sublist.subset List.mem_cons_self)

/-- With the same distinct keys, the fields that are set determine all fields. -/
theorem present_inj {fields others : List (String × Option Json)}
    (same : fields.map Prod.fst = others.map Prod.fst) (distinct : (fields.map Prod.fst).Nodup)
    (equal : present fields = present others) : fields = others := by
  induction fields generalizing others with
  | nil => exact (List.map_eq_nil_iff.mp same.symm).symm
  | cons field fields induction =>
      cases others with
      | nil => cases same
      | cons other others =>
          obtain ⟨key, value⟩ := field
          obtain ⟨otherKey, otherValue⟩ := other
          obtain ⟨rfl, sameKeys⟩ : key = otherKey ∧ fields.map Prod.fst = others.map Prod.fst :=
            List.cons.inj same
          obtain ⟨absent, laterDistinct⟩ := List.nodup_cons.mp distinct
          have otherAbsent : key ∉ others.map Prod.fst := sameKeys ▸ absent
          cases value with
          | none =>
              cases otherValue with
              | none => rw [induction sameKeys laterDistinct equal]
              | some otherValue =>
                  rw [present_none, present_some] at equal
                  exact absurd equal (present_ne_cons absent)
          | some value =>
              cases otherValue with
              | none =>
                  rw [present_none, present_some] at equal
                  exact absurd equal.symm (present_ne_cons otherAbsent)
              | some otherValue =>
                  rw [present_some, present_some, List.cons.injEq, Prod.mk.injEq] at equal
                  obtain ⟨⟨-, rfl⟩, later⟩ := equal
                  rw [induction sameKeys laterDistinct later]

/-- With the same distinct keys, two objects are equal only when all their fields are. -/
theorem ofFields_inj {fields others : List (String × Option Json)}
    (equal : ofFields fields = ofFields others)
    (same : fields.map Prod.fst = others.map Prod.fst)
    (distinct : (fields.map Prod.fst).Nodup) : fields = others := by
  rw [ofFields_eq, ofFields_eq, object.injEq] at equal
  exact present_inj same distinct equal

mutual

/-- Whether no object in a value has two fields of one key. -/
def distinctKeys : Json → Bool
  | null => true
  | bool _ => true
  | integer _ => true
  | decimal _ => true
  | text _ => true
  | list items => allDistinctKeys items
  | object fields => decide (fields.map Prod.fst).Nodup && fieldsDistinctKeys fields

/-- Whether no object in the items of a list has two fields of one key. -/
def allDistinctKeys : List Json → Bool
  | [] => true
  | item :: items => item.distinctKeys && allDistinctKeys items

/-- Whether no object in the values of some fields has two fields of one key. -/
def fieldsDistinctKeys : List (String × Json) → Bool
  | [] => true
  | (_, value) :: fields => value.distinctKeys && fieldsDistinctKeys fields

end

/-- A value that is written without loss: its numbers are integers and its keys are distinct. -/
def Lossless (value : Json) : Prop :=
  value.integral ∧ value.distinctKeys

theorem lossless_text (value : CodeText) : (text value).Lossless := ⟨rfl, rfl⟩

theorem lossless_bool (value : Bool) : (bool value).Lossless := ⟨rfl, rfl⟩

theorem lossless_integer (value : Int) : (integer value).Lossless := ⟨rfl, rfl⟩

theorem lossless_list {items : List Json} (each : ∀ item ∈ items, item.Lossless) :
    (list items).Lossless := by
  rw [Lossless, integral, distinctKeys]
  induction items with
  | nil => exact ⟨rfl, rfl⟩
  | cons item items induction =>
      rw [List.forall_mem_cons] at each
      obtain ⟨first, later⟩ := each
      have rest := induction later
      rw [allIntegral, allDistinctKeys, Bool.and_eq_true, Bool.and_eq_true]
      exact ⟨⟨first.1, rest.1⟩, first.2, rest.2⟩

theorem lossless_present {fields : List (String × Option Json)}
    (each : ∀ field ∈ fields, ∀ value ∈ field.2, value.Lossless) :
    fieldsIntegral (present fields) ∧ fieldsDistinctKeys (present fields) := by
  induction fields with
  | nil => exact ⟨rfl, rfl⟩
  | cons field fields induction =>
      obtain ⟨first, later⟩ := List.forall_mem_cons.mp each
      have rest := induction later
      obtain ⟨key, value⟩ := field
      cases value with
      | none => exact rest
      | some value =>
          have own : value.Lossless := first value rfl
          rw [present_some, fieldsIntegral, fieldsDistinctKeys, Bool.and_eq_true,
            Bool.and_eq_true]
          exact ⟨⟨own.1, rest.1⟩, own.2, rest.2⟩

/-- An object of optional fields is lossless when its keys are distinct and its values are. -/
theorem lossless_ofFields {fields : List (String × Option Json)}
    (distinct : (fields.map Prod.fst).Nodup)
    (each : ∀ field ∈ fields, ∀ value ∈ field.2, value.Lossless) :
    (ofFields fields).Lossless := by
  have keys := distinct.sublist (present_keys_sublist fields)
  rw [ofFields_eq, Lossless, integral, distinctKeys, decide_eq_true keys, Bool.true_and]
  exact lossless_present each

end Json

/-! ## Attributes -/

theorem TextSize.name_injective : Function.Injective TextSize.name := by
  intro size other equal
  cases size <;> cases other <;> first | rfl | exact absurd equal (by decide)

theorem TextWeight.name_injective : Function.Injective TextWeight.name := by
  intro weight other equal
  cases weight <;> cases other <;> first | rfl | exact absurd equal (by decide)

theorem TextColor.name_injective : Function.Injective TextColor.name := by
  intro color other equal
  cases color <;> cases other <;> first | rfl | exact absurd equal (by decide)

theorem FontType.name_injective : Function.Injective FontType.name := by
  intro font other equal
  cases font <;> cases other <;> first | rfl | exact absurd equal (by decide)

theorem ContainerStyle.name_injective : Function.Injective ContainerStyle.name := by
  intro style other equal
  cases style <;> cases other <;> first | rfl | exact absurd equal (by decide)

theorem Spacing.name_injective : Function.Injective Spacing.name := by
  intro spacing other equal
  have found := congrArg Spacing.ofName? equal
  rwa [Spacing.ofName?_name, Spacing.ofName?_name, Option.some.injEq] at found

/-- An attribute with names determines its value, and whether it is set. -/
theorem Json.map_name_inj {α : Type} {name : α → String} (injective : Function.Injective name)
    {value other : Option α} :
    (value.map fun value => Json.text (name value)) =
      (other.map fun value => Json.text (name value)) ↔ value = other :=
  Option.map_inj_right fun _ _ equal =>
    injective (CodeText.ofString_injective (Json.text.inj equal))

theorem Json.map_string_inj {value other : Option String} :
    (value.map fun (value : String) => Json.text value) =
      (other.map fun (value : String) => Json.text value) ↔ value = other :=
  Json.map_name_inj Function.injective_id

theorem Json.map_text_inj {value other : Option CodeText} :
    value.map Json.text = other.map Json.text ↔ value = other :=
  Option.map_inj_right fun _ _ => Json.text.inj

theorem Json.map_bool_inj {value other : Option Bool} :
    value.map Json.bool = other.map Json.bool ↔ value = other :=
  Option.map_inj_right fun _ _ => Json.bool.inj

theorem ColumnWidth.toJson_injective : Function.Injective ColumnWidth.toJson := by
  intro width other equal
  cases width with
  | weight share =>
      cases other with
      | weight otherShare => rw [Json.integer.inj equal]
      | named text => cases equal
  | named text =>
      cases other with
      | weight share => cases equal
      | named otherText => rw [CodeText.ofString_injective (Json.text.inj equal)]

theorem Column.toJson_injective : Function.Injective Column.toJson := by
  rintro ⟨width⟩ ⟨otherWidth⟩ equal
  have fields := Json.ofFields_inj equal rfl (by simp)
  rw [List.cons.injEq, Prod.mk.injEq] at fields
  exact congrArg Column.mk (Option.map_injective ColumnWidth.toJson_injective fields.1.2)

/-- The action of a run determines the address that it opens. -/
theorem Json.map_action_inj {url other : Option String} :
    (url.map fun (url : String) =>
        Json.object [("type", .text "Action.OpenUrl"), ("url", .text url)]) =
      (other.map fun (url : String) =>
        Json.object [("type", .text "Action.OpenUrl"), ("url", .text url)]) ↔ url = other :=
  Option.map_inj_right fun _ _ equal => by simpa using equal

theorem TextRun.toJson_injective : Function.Injective TextRun.toJson := by
  rintro ⟨text, weight, italic, strikethrough, font, color, size, opens⟩
    ⟨otherText, otherWeight, otherItalic, otherStrikethrough, otherFont, otherColor, otherSize,
      otherOpens⟩ equal
  have fields := Json.ofFields_inj equal rfl (by simp)
  simp only [List.cons.injEq, Prod.mk.injEq, true_and, and_true, Option.some.injEq,
    Json.text.injEq, CodeText.ofString_inj, Json.map_name_inj TextSize.name_injective,
    Json.map_name_inj TextWeight.name_injective, Json.map_name_inj TextColor.name_injective,
    Json.map_name_inj FontType.name_injective, Json.map_bool_inj, Json.map_action_inj] at fields
  obtain ⟨rfl, rfl, rfl, rfl, rfl, rfl, rfl, rfl⟩ := fields
  rfl

/-- The fields of a placement determine it: a separator that is missing is one that is not set. -/
theorem Placement.fields_injective : Function.Injective Placement.fields := by
  rintro ⟨spacing, separator⟩ ⟨otherSpacing, otherSeparator⟩ equal
  simp only [Placement.fields, List.cons.injEq, Prod.mk.injEq, true_and, and_true,
    Json.map_name_inj Spacing.name_injective] at equal
  obtain ⟨rfl, separators⟩ := equal
  cases separator <;> cases otherSeparator <;> first | rfl | cases separators

/-! ## Elements -/

/-- The class of an element, as its first field names it. -/
def Element.typeName : Element → String
  | bare _ => "CardElement"
  | textBlock _ _ _ _ _ => "TextBlock"
  | richText _ _ => "RichTextBlock"
  | code _ _ _ => "CodeBlock"
  | container _ _ _ => "Container"
  | image _ _ _ => "Image"
  | tableCell _ _ => "TableCell"
  | tableRow _ _ _ => "TableRow"
  | table _ _ _ => "Table"

/-- The fields of an element between its type and its placement. -/
def Element.ownFields : Element → List (String × Option Json)
  | bare _ => []
  | textBlock text wrap size weight _ =>
      [("text", some (.text text)),
        ("wrap", wrap.map .bool),
        ("size", size.map fun size => .text size.name),
        ("weight", weight.map fun weight => .text weight.name)]
  | richText runs _ => [("inlines", some (.list (runs.map TextRun.toJson)))]
  | code snippet language _ =>
      [("codeSnippet", some (.text snippet)),
        ("language", language.map fun (language : String) => .text language)]
  | container items showBorder _ =>
      [("items", some (.list (Element.allToJson items))), ("showBorder", showBorder.map .bool)]
  | image url altText _ =>
      [("url", some (.text url)),
        ("altText", altText.map fun (altText : String) => .text altText)]
  | tableCell items _ => [("items", some (.list (Element.allToJson items)))]
  | tableRow cells style _ =>
      [("cells", some (.list (Element.allToJson cells))),
        ("style", style.map fun style => .text style.name)]
  | table columns rows _ =>
      [("columns", some (.list (columns.map Column.toJson))),
        ("rows", some (.list (Element.allToJson rows)))]

/-- All fields of an element, set or not. -/
def Element.fields (element : Element) : List (String × Option Json) :=
  ("type", some (.text element.typeName)) :: element.ownFields ++ element.placement.fields

theorem Element.toJson_eq (element : Element) : element.toJson = .ofFields element.fields := by
  cases element <;> rw [Element.toJson] <;> rfl

/-- The keys of an element are distinct, the keys of its placement included. -/
theorem Element.fields_nodup (element : Element) : (element.fields.map Prod.fst).Nodup := by
  cases element <;> simp [Element.fields, Element.ownFields, Placement.fields]

theorem Element.toJson_type (element : Element) :
    element.toJson.field? "type" = some (.text element.typeName) := by
  rw [Element.toJson_eq]
  rfl

/-- The class of an element fixes its keys. -/
theorem Element.ownFields_keys {element other : Element}
    (sameType : element.typeName = other.typeName) :
    element.ownFields.map Prod.fst = other.ownFields.map Prod.fst := by
  cases element <;> cases other <;>
    first
    | rfl
    | exact absurd sameType (by simp [Element.typeName])

/-- Elements that are written alike agree in their class, their own fields and their placement. -/
theorem Element.fields_inj {element other : Element} (equal : element.toJson = other.toJson) :
    element.typeName = other.typeName ∧ element.ownFields = other.ownFields ∧
      element.placement = other.placement := by
  have sameType : element.typeName = other.typeName := by
    have types := congrArg (Json.field? "type") equal
    rw [Element.toJson_type, Element.toJson_type, Option.some.injEq] at types
    exact CodeText.ofString_injective (Json.text.inj types)
  have ownKeys := Element.ownFields_keys sameType
  have keys : element.fields.map Prod.fst = other.fields.map Prod.fst := by
    rw [Element.fields, Element.fields, List.map_append, List.map_append, List.map_cons,
      List.map_cons, ownKeys]
    rfl
  rw [Element.toJson_eq, Element.toJson_eq] at equal
  have later := (List.cons.inj (Json.ofFields_inj equal keys element.fields_nodup)).2
  have lengths : element.ownFields.length = other.ownFields.length := by
    simpa using congrArg List.length ownKeys
  obtain ⟨own, placements⟩ := List.append_inj later lengths
  exact ⟨sameType, own, Placement.fields_injective placements⟩

section Alike

variable {placement : Placement} {other : Element}

theorem Element.eq_of_bare (equal : (bare placement).toJson = other.toJson) :
    bare placement = other := by
  obtain ⟨sameType, -, placed⟩ := Element.fields_inj equal
  cases other with
  | bare otherPlacement => exact congrArg Element.bare placed
  | _ => exact absurd sameType (by simp [Element.typeName])

theorem Element.eq_of_textBlock {text : String} {wrap : Option Bool} {size : Option TextSize}
    {weight : Option TextWeight}
    (equal : (textBlock text wrap size weight placement).toJson = other.toJson) :
    textBlock text wrap size weight placement = other := by
  obtain ⟨sameType, own, placed⟩ := Element.fields_inj equal
  cases other with
  | textBlock otherText otherWrap otherSize otherWeight otherPlacement =>
      simp only [Element.ownFields, List.cons.injEq, Prod.mk.injEq, true_and, and_true,
        Option.some.injEq, Json.text.injEq, CodeText.ofString_inj, Json.map_bool_inj,
        Json.map_name_inj TextSize.name_injective,
        Json.map_name_inj TextWeight.name_injective] at own
      obtain ⟨rfl, rfl, rfl, rfl⟩ := own
      exact congrArg (Element.textBlock text wrap size weight) placed
  | _ => exact absurd sameType (by simp [Element.typeName])

theorem Element.eq_of_richText {runs : List TextRun}
    (equal : (richText runs placement).toJson = other.toJson) :
    richText runs placement = other := by
  obtain ⟨sameType, own, placed⟩ := Element.fields_inj equal
  cases other with
  | richText otherRuns otherPlacement =>
      simp only [Element.ownFields, List.cons.injEq, Prod.mk.injEq, true_and, and_true,
        Option.some.injEq, Json.list.injEq] at own
      obtain rfl := TextRun.toJson_injective.list_map own
      exact congrArg (Element.richText runs) placed
  | _ => exact absurd sameType (by simp [Element.typeName])

theorem Element.eq_of_code {snippet : String} {language : Option String}
    (equal : (code snippet language placement).toJson = other.toJson) :
    code snippet language placement = other := by
  obtain ⟨sameType, own, placed⟩ := Element.fields_inj equal
  cases other with
  | code otherSnippet otherLanguage otherPlacement =>
      simp only [Element.ownFields, List.cons.injEq, Prod.mk.injEq, true_and, and_true,
        Option.some.injEq, Json.text.injEq, CodeText.ofString_inj, Json.map_string_inj] at own
      obtain ⟨rfl, rfl⟩ := own
      exact congrArg (Element.code snippet language) placed
  | _ => exact absurd sameType (by simp [Element.typeName])

theorem Element.eq_of_image {url : String} {altText : Option String}
    (equal : (image url altText placement).toJson = other.toJson) :
    image url altText placement = other := by
  obtain ⟨sameType, own, placed⟩ := Element.fields_inj equal
  cases other with
  | image otherUrl otherAltText otherPlacement =>
      simp only [Element.ownFields, List.cons.injEq, Prod.mk.injEq, true_and, and_true,
        Option.some.injEq, Json.text.injEq, CodeText.ofString_inj, Json.map_string_inj] at own
      obtain ⟨rfl, rfl⟩ := own
      exact congrArg (Element.image url altText) placed
  | _ => exact absurd sameType (by simp [Element.typeName])

/-- What is written like a container is one with the same border, up to the items. -/
theorem Element.exists_container {items : List Element} {showBorder : Option Bool}
    (equal : (container items showBorder placement).toJson = other.toJson) :
    ∃ otherItems, other = container otherItems showBorder placement ∧
      allToJson items = allToJson otherItems := by
  obtain ⟨sameType, own, placed⟩ := Element.fields_inj equal
  cases other with
  | container otherItems otherShowBorder otherPlacement =>
      simp only [Element.ownFields, List.cons.injEq, Prod.mk.injEq, true_and, and_true,
        Option.some.injEq, Json.list.injEq, Json.map_bool_inj] at own
      obtain ⟨sameItems, rfl⟩ := own
      exact ⟨otherItems, congrArg (Element.container otherItems showBorder) placed.symm, sameItems⟩
  | _ => exact absurd sameType (by simp [Element.typeName])

theorem Element.exists_tableCell {items : List Element}
    (equal : (tableCell items placement).toJson = other.toJson) :
    ∃ otherItems, other = tableCell otherItems placement ∧
      allToJson items = allToJson otherItems := by
  obtain ⟨sameType, own, placed⟩ := Element.fields_inj equal
  cases other with
  | tableCell otherItems otherPlacement =>
      simp only [Element.ownFields, List.cons.injEq, Prod.mk.injEq, true_and, and_true,
        Option.some.injEq, Json.list.injEq] at own
      exact ⟨otherItems, congrArg (Element.tableCell otherItems) placed.symm, own⟩
  | _ => exact absurd sameType (by simp [Element.typeName])

theorem Element.exists_tableRow {cells : List Element} {style : Option ContainerStyle}
    (equal : (tableRow cells style placement).toJson = other.toJson) :
    ∃ otherCells, other = tableRow otherCells style placement ∧
      allToJson cells = allToJson otherCells := by
  obtain ⟨sameType, own, placed⟩ := Element.fields_inj equal
  cases other with
  | tableRow otherCells otherStyle otherPlacement =>
      simp only [Element.ownFields, List.cons.injEq, Prod.mk.injEq, true_and, and_true,
        Option.some.injEq, Json.list.injEq,
        Json.map_name_inj ContainerStyle.name_injective] at own
      obtain ⟨sameCells, rfl⟩ := own
      exact ⟨otherCells, congrArg (Element.tableRow otherCells style) placed.symm, sameCells⟩
  | _ => exact absurd sameType (by simp [Element.typeName])

theorem Element.exists_table {columns : List Column} {rows : List Element}
    (equal : (table columns rows placement).toJson = other.toJson) :
    ∃ otherRows, other = table columns otherRows placement ∧
      allToJson rows = allToJson otherRows := by
  obtain ⟨sameType, own, placed⟩ := Element.fields_inj equal
  cases other with
  | table otherColumns otherRows otherPlacement =>
      simp only [Element.ownFields, List.cons.injEq, Prod.mk.injEq, true_and, and_true,
        Option.some.injEq, Json.list.injEq] at own
      obtain ⟨sameColumns, sameRows⟩ := own
      obtain rfl := Column.toJson_injective.list_map sameColumns
      exact ⟨otherRows, congrArg (Element.table columns otherRows) placed.symm, sameRows⟩
  | _ => exact absurd sameType (by simp [Element.typeName])

end Alike

mutual

/-- Elements that are written alike are equal. -/
theorem Element.toJson_inj (element other : Element) (equal : element.toJson = other.toJson) :
    element = other := by
  cases element with
  | bare placement => exact Element.eq_of_bare equal
  | textBlock text wrap size weight placement => exact Element.eq_of_textBlock equal
  | richText runs placement => exact Element.eq_of_richText equal
  | code snippet language placement => exact Element.eq_of_code equal
  | image url altText placement => exact Element.eq_of_image equal
  | container items showBorder placement =>
      obtain ⟨otherItems, rfl, same⟩ := Element.exists_container equal
      rw [Element.allToJson_inj items otherItems same]
  | tableCell items placement =>
      obtain ⟨otherItems, rfl, same⟩ := Element.exists_tableCell equal
      rw [Element.allToJson_inj items otherItems same]
  | tableRow cells style placement =>
      obtain ⟨otherCells, rfl, same⟩ := Element.exists_tableRow equal
      rw [Element.allToJson_inj cells otherCells same]
  | table columns rows placement =>
      obtain ⟨otherRows, rfl, same⟩ := Element.exists_table equal
      rw [Element.allToJson_inj rows otherRows same]

/-- Lists of elements that are written alike are equal. -/
theorem Element.allToJson_inj (elements others : List Element)
    (equal : Element.allToJson elements = Element.allToJson others) : elements = others := by
  cases elements with
  | nil =>
      cases others with
      | nil => rfl
      | cons other others => cases equal
  | cons element elements =>
      cases others with
      | nil => cases equal
      | cons other others =>
          rw [Element.allToJson, Element.allToJson, List.cons.injEq] at equal
          rw [Element.toJson_inj element other equal.1,
            Element.allToJson_inj elements others equal.2]

end

theorem Card.toJson_injective : Function.Injective Card.toJson := by
  rintro ⟨body, version, schema, lang, fallbackText⟩
    ⟨otherBody, otherVersion, otherSchema, otherLang, otherFallbackText⟩ equal
  have fields := Json.ofFields_inj equal rfl (by simp)
  simp only [List.cons.injEq, Prod.mk.injEq, true_and, and_true, Option.some.injEq,
    Json.text.injEq, Json.list.injEq, Json.map_text_inj] at fields
  obtain ⟨rfl, rfl, rfl, rfl, sameBody⟩ := fields
  rw [Element.allToJson_inj body otherBody sameBody]

/-! ## What is written -/

theorem TextRun.lossless_toJson (run : TextRun) : run.toJson.Lossless := by
  apply Json.lossless_ofFields
  · simp
  · have action (url : String) :
        (Json.object [("type", .text "Action.OpenUrl"), ("url", .text url)]).Lossless :=
      ⟨rfl, rfl⟩
    simp only [List.forall_mem_cons, Option.forall_mem_map, Option.mem_some_iff, forall_eq',
      Json.lossless_text, Json.lossless_bool, action, implies_true, List.not_mem_nil,
      IsEmpty.forall_iff, and_self]

theorem Column.lossless_toJson (column : Column) : column.toJson.Lossless := by
  apply Json.lossless_ofFields
  · simp
  · have width (width : ColumnWidth) : width.toJson.Lossless := by
      cases width with
      | weight share => exact Json.lossless_integer share
      | named text => exact Json.lossless_text text
    simp [width]

/-- An element is written without loss when its own fields are. -/
theorem Element.lossless_of_ownFields (element : Element)
    (own : ∀ field ∈ element.ownFields, ∀ value ∈ field.2, value.Lossless) :
    element.toJson.Lossless := by
  rw [Element.toJson_eq]
  apply Json.lossless_ofFields element.fields_nodup
  have type : ∀ value ∈ some (Json.text element.typeName), value.Lossless := by
    simp [Json.lossless_text]
  have placed : ∀ field ∈ element.placement.fields, ∀ value ∈ field.2, value.Lossless := by
    simp [Placement.fields, Json.lossless_text, Json.lossless_bool]
  rw [Element.fields, List.cons_append, List.forall_mem_cons, List.forall_mem_append]
  exact ⟨type, own, placed⟩

mutual

theorem Element.lossless_toJson (element : Element) : element.toJson.Lossless := by
  apply Element.lossless_of_ownFields
  cases element with
  | bare placement => simp [Element.ownFields]
  | textBlock text wrap size weight placement =>
      simp only [Element.ownFields, List.forall_mem_cons, Option.forall_mem_map,
        Option.mem_some_iff, forall_eq', Json.lossless_text, Json.lossless_bool, implies_true,
        List.not_mem_nil, IsEmpty.forall_iff, and_self]
  | richText runs placement =>
      have inlines : (Json.list (runs.map TextRun.toJson)).Lossless :=
        Json.lossless_list (by simp [TextRun.lossless_toJson])
      simp [Element.ownFields, inlines]
  | code snippet language placement => simp [Element.ownFields, Json.lossless_text]
  | container items showBorder placement =>
      have written := Json.lossless_list (Element.lossless_allToJson items)
      simp only [Element.ownFields, List.forall_mem_cons, Option.forall_mem_map,
        Option.mem_some_iff, forall_eq', written, Json.lossless_bool, implies_true,
        List.not_mem_nil, IsEmpty.forall_iff, and_self]
  | image url altText placement => simp [Element.ownFields, Json.lossless_text]
  | tableCell items placement =>
      have written := Json.lossless_list (Element.lossless_allToJson items)
      simp [Element.ownFields, written]
  | tableRow cells style placement =>
      have written := Json.lossless_list (Element.lossless_allToJson cells)
      simp [Element.ownFields, written, Json.lossless_text]
  | table columns rows placement =>
      have widths : (Json.list (columns.map Column.toJson)).Lossless :=
        Json.lossless_list (by simp [Column.lossless_toJson])
      have written := Json.lossless_list (Element.lossless_allToJson rows)
      simp [Element.ownFields, widths, written]

theorem Element.lossless_allToJson (elements : List Element) :
    ∀ item ∈ Element.allToJson elements, item.Lossless := by
  cases elements with
  | nil => simp [Element.allToJson]
  | cons element elements =>
      rw [Element.allToJson, List.forall_mem_cons]
      exact ⟨Element.lossless_toJson element, Element.lossless_allToJson elements⟩

end

/-- A card has no number but integers and no key twice in one object. -/
theorem Card.lossless_toJson (card : Card) : card.toJson.Lossless := by
  have body := Json.lossless_list (Element.lossless_allToJson card.body)
  apply Json.lossless_ofFields
  · simp
  · simp [Json.lossless_text, body]

/-- A text of a card reads back as the fields of the card. -/
theorem Card.read?_serialize (card : Card) (indent : Option Nat) :
    Json.read? (card.serialize indent) = some card.toJson :=
  Json.read?_print indent card.toJson card.lossless_toJson.1

/-- Cards of one text are equal, whatever the indentations are that the text was written with. -/
theorem Card.serialize_inj {card other : Card} {indent otherIndent : Option Nat}
    (equal : card.serialize indent = other.serialize otherIndent) : card = other := by
  have read := congrArg Json.read? equal
  rw [Card.read?_serialize, Card.read?_serialize, Option.some.injEq] at read
  exact Card.toJson_injective read

/-- Without an indentation a card is one line. -/
theorem Card.serialize_oneLine (card : Card) :
    ∀ point ∈ (card.serialize none).points, point ≠ .char '\n' ∧ point ≠ .char '\r' := by
  intro point member
  have printed : 32 ≤ point.code :=
    Json.printed_render card.toJson card.lossless_toJson.1 0 point member
  constructor
  · rintro rfl
    exact absurd printed (by decide)
  · rintro rfl
    exact absurd printed (by decide)

/-- Serialization loses nothing: every text of a card reads back as its fields in their order, with
no key twice in one object, the fields determine the card, different cards have different texts
whatever the two indentations are, and a text without indentation is one line. -/
theorem Card.serialize_lossless (card other : Card) (indent otherIndent : Option Nat) :
    Json.read? (card.serialize indent) = some card.toJson ∧ card.toJson.distinctKeys ∧
      (card.toJson = other.toJson ↔ card = other) ∧
      (card ≠ other → card.serialize indent ≠ other.serialize otherIndent) ∧
      ∀ point ∈ (card.serialize none).points, point ≠ .char '\n' ∧ point ≠ .char '\r' :=
  ⟨card.read?_serialize indent, card.lossless_toJson.2, Card.toJson_injective.eq_iff,
    fun different equal => different (Card.serialize_inj equal), card.serialize_oneLine⟩

/-- A card of one text that is wrapped, placed with the given spacing. -/
def wrappedCard (spacing : Option Spacing) : Card :=
  { body := [.textBlock "\"a\"\n" (some false) none none { spacing }]
    lang := some "" }

/-- A spacing that is not set is told apart from the lowest step of the ladder. -/
theorem Card.serialize_lossless_unset :
    wrappedCard none ≠ wrappedCard (some .none) ∧
      (wrappedCard none).serialize none ≠ (wrappedCard (some .none)).serialize (some 2) ∧
      Json.read? ((wrappedCard none).serialize none) =
        some (.object
          [("type", .text "AdaptiveCard"),
            ("$schema", .text "http://adaptivecards.io/schemas/adaptive-card.json"),
            ("version", .text "1.5"),
            ("lang", .text ""),
            ("body", .list [.object
              [("type", .text "TextBlock"), ("text", .text "\"a\"\n"),
                ("wrap", .bool false)]])]) := by
  have different : wrappedCard none ≠ wrappedCard (some .none) := by simp [wrappedCard]
  obtain ⟨reads, -, -, texts, -⟩ :=
    Card.serialize_lossless (wrappedCard none) (wrappedCard (some .none)) none (some 2)
  exact ⟨different, texts different, reads⟩

end CardPress
