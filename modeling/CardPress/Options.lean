import CardPress.Yaml.Load

/-!
# Card options

The settings of a card, and how a mapping is laid over them.  Keys may be spelled in two ways, keys
that name no setting are ignored, and the first value that does not fit its setting is refused.
-/

namespace CardPress

/-- The settings of a card. -/
structure CardOptions where
  version : CodeText := "1.5"
  schema : CodeText := "http://adaptivecards.io/schemas/adaptive-card.json"
  lang : Option CodeText := none
  fallbackText : Option CodeText := none
  /-- Width of the indentation of the JSON text; none puts it on one line. -/
  indent : Option Nat := some 2
  deriving DecidableEq, Repr, Inhabited

/-- The settings by name. -/
inductive Setting where
  | version
  | schema
  | lang
  | fallbackText
  | indent
  deriving DecidableEq, Repr

namespace Setting

/-- The name of a setting in reports. -/
def name : Setting → String
  | version => "version"
  | schema => "schema"
  | lang => "lang"
  | fallbackText => "fallback_text"
  | indent => "indent"

/-- The keys of a mapping and the settings that they name. -/
def spellings : List (String × Setting) :=
  [("version", version), ("schema", schema), ("$schema", schema), ("lang", lang),
    ("fallback_text", fallbackText), ("fallbackText", fallbackText), ("indent", indent)]

/-- The setting that a key names; keys that are not texts name none. -/
def ofKey? : Yaml.Value → Option Setting
  | .text key => key.string?.bind fun key => spellings.lookup key
  | _ => none

end Setting

/-- Why a value does not fit its setting. -/
inductive OptionFault where
  /-- An indentation that is neither null nor a natural number. -/
  | indent (value : Yaml.Value)
  /-- A version that was read as a decimal number. -/
  | numericVersion (value : Yaml.Value)
  /-- A value that is not a text and has no text to stand for it. -/
  | notText (setting : Setting) (value : Yaml.Value)
  /-- An integer that is too long to be written. -/
  | tooLong
  deriving Repr

/-- The report of an integer that is too long to be written. -/
def tooLongMessage : String :=
  "Exceeds the limit (" ++ toString Yaml.digitLimit ++
    " digits) for integer string conversion; use sys.set_int_max_str_digits() to increase the limit"

/-- A report that shows a value at its end, unless the value is too long to be shown. -/
def reportOf (front : String) (value : Yaml.Value) (back : String) : String :=
  if value.hasLongInteger then tooLongMessage else front ++ value.display ++ back

/-- The report of a value that does not fit. -/
def OptionFault.message : OptionFault → String
  | indent value =>
      reportOf "Option 'indent' must be a non-negative integer or null, got " value ""
  | numericVersion value =>
      reportOf "Option 'version' must be quoted, YAML read " value " as a number"
  | notText setting value =>
      reportOf ("Option '" ++ setting.name ++ "' must be a string, got ") value ""
  | tooLong => tooLongMessage

/-- The text that a value stands for in a setting; null, truth values and collections have none. -/
def textOf (setting : Setting) (value : Yaml.Value) : Except OptionFault CodeText :=
  match value with
  | .null => .error (.notText setting value)
  | .bool _ => .error (.notText setting value)
  | .list _ => .error (.notText setting value)
  | .mapping _ => .error (.notText setting value)
  | .pairs _ => .error (.notText setting value)
  | .cycle _ => .error (.notText setting value)
  | _ => if value.hasLongInteger then .error .tooLong else .ok value.plain

/-- The text of a setting that may be unset. -/
def optionalTextOf (setting : Setting) (value : Yaml.Value) :
    Except OptionFault (Option CodeText) :=
  match value with
  | .null => .ok none
  | _ => (textOf setting value).map some

/-- The width that a value stands for. -/
def indentOf (value : Yaml.Value) : Except OptionFault (Option Nat) :=
  match value with
  | .null => .ok none
  | .integer width => if width < 0 then .error (.indent value) else .ok (some width.toNat)
  | _ => .error (.indent value)

/-- The text of the version, which a decimal number does not stand for. -/
def versionOf (value : Yaml.Value) : Except OptionFault CodeText :=
  match value with
  | .real _ => .error (.numericVersion value)
  | _ => textOf .version value

namespace CardOptions

/-- Change one setting to a value. -/
def set (options : CardOptions) (setting : Setting) (value : Yaml.Value) :
    Except OptionFault CardOptions :=
  match setting with
  | .version => do return { options with version := ← versionOf value }
  | .schema => do return { options with schema := ← textOf .schema value }
  | .lang => do return { options with lang := ← optionalTextOf .lang value }
  | .fallbackText => do
      return { options with fallbackText := ← optionalTextOf .fallbackText value }
  | .indent => do return { options with indent := ← indentOf value }

/-- Lay a mapping over the options, entry by entry. -/
def overlay (options : CardOptions) :
    List (Yaml.Value × Yaml.Value) → Except OptionFault CardOptions
  | [] => .ok options
  | (key, value) :: entries =>
      if key.hasLongInteger then .error .tooLong
      else
        match Setting.ofKey? key with
        | none => overlay options entries
        | some setting => do overlay (← options.set setting value) entries

/-- The keys that are ignored while a mapping is laid over options. -/
def ignoredKeys : List (Yaml.Value × Yaml.Value) → List Yaml.Value
  | [] => []
  | (key, value) :: entries =>
      if key.hasLongInteger then []
      else
        match Setting.ofKey? key with
        | none => key :: ignoredKeys entries
        | some setting =>
            match ({} : CardOptions).set setting value with
            | .ok _ => ignoredKeys entries
            | .error _ => []

end CardOptions

/-- Why a text of options is refused. -/
inductive OptionsError where
  /-- The text is not well-formed YAML, with its description. -/
  | malformed (description : String)
  /-- A value in the text denotes nothing. -/
  | yaml (failure : Yaml.Failure)
  /-- The text denotes something other than a mapping. -/
  | root
  | value (fault : OptionFault)
  deriving Repr

/-- The report of a text of options that is refused, where one is given. -/
def OptionsError.message? : OptionsError → Option String
  | malformed description => some ("Card options are not valid YAML: " ++ description)
  | yaml failure => failure.message?
  | root => some "YAML root must be a mapping of card options."
  | value fault => some fault.message

/-- The entries of a text of options; a text that denotes nothing has none. -/
def optionEntries (host : Host) (text : String) :
    Except OptionsError (List (Yaml.Value × Yaml.Value)) :=
  match Yaml.load host text with
  | .error .malformed => .error (.malformed (host.describe text))
  | .error failure => .error (.yaml failure)
  | .ok (.mapping entries) => .ok entries
  | .ok value => if value.isVoid then .ok [] else .error .root

/-- Lay the options that a text denotes over others. -/
def CardOptions.overlayText (host : Host) (options : CardOptions) (text : String) :
    Except OptionsError CardOptions := do
  let entries ← optionEntries host text
  match options.overlay entries with
  | .ok options => return options
  | .error fault => throw (.value fault)

end CardPress
