import CardPress.Options

/-!
# Layers of options

Mappings are laid over options one after the other, and one that is refused changes nothing.  A
mapping is refused exactly when one of its entries is, with the report of the first such entry.
Each setting ends up with the last value that it is given in the last mapping that is not refused
and gives it one, or as it was at the start.
-/

namespace CardPress

/-! ## Single settings -/

namespace Setting

/-- What a setting holds. -/
abbrev Content : Setting → Type
  | version => CodeText
  | schema => CodeText
  | lang => Option CodeText
  | fallbackText => Option CodeText
  | indent => Option Nat

/-- What a value stands for in a setting. -/
def read : (setting : Setting) → Yaml.Value → Except OptionFault setting.Content
  | version => versionOf
  | schema => textOf .schema
  | lang => optionalTextOf .lang
  | fallbackText => optionalTextOf .fallbackText
  | indent => indentOf

end Setting

namespace CardOptions

/-- What stands in a setting. -/
def get (options : CardOptions) : (setting : Setting) → setting.Content
  | .version => options.version
  | .schema => options.schema
  | .lang => options.lang
  | .fallbackText => options.fallbackText
  | .indent => options.indent

/-- The options with something else in one setting. -/
def put (options : CardOptions) : (setting : Setting) → setting.Content → CardOptions
  | .version, content => { options with version := content }
  | .schema, content => { options with schema := content }
  | .lang, content => { options with lang := content }
  | .fallbackText, content => { options with fallbackText := content }
  | .indent, content => { options with indent := content }

@[simp]
theorem get_put_self (options : CardOptions) (setting : Setting) (content : setting.Content) :
    (options.put setting content).get setting = content := by
  cases setting <;> rfl

theorem get_put_of_ne (options : CardOptions) {setting other : Setting} (apart : other ≠ setting)
    (content : setting.Content) : (options.put setting content).get other = options.get other := by
  cases setting with
  | version => cases other with
    | version => exact absurd rfl apart
    | _ => rfl
  | schema => cases other with
    | schema => exact absurd rfl apart
    | _ => rfl
  | lang => cases other with
    | lang => exact absurd rfl apart
    | _ => rfl
  | fallbackText => cases other with
    | fallbackText => exact absurd rfl apart
    | _ => rfl
  | indent => cases other with
    | indent => exact absurd rfl apart
    | _ => rfl

/-- Changing a setting reads the value first, whatever the options are. -/
theorem set_eq (options : CardOptions) (setting : Setting) (value : Yaml.Value) :
    options.set setting value = (setting.read value).map (options.put setting) := by
  cases setting <;> exact bind_pure_comp _ _

end CardOptions

/-! ## Admitted entries -/

/-- Whether a value is neither null, nor a truth value, nor a list or a mapping. -/
def Yaml.Value.standsForText : Yaml.Value → Bool
  | .null => false
  | .bool _ => false
  | .list _ => false
  | .mapping _ => false
  | .pairs _ => false
  | .cycle _ => false
  | _ => true

namespace Setting

/-- Whether a setting takes a value.  An indentation is null or a natural number, a version is no
decimal number, and the version and the schema are never null. -/
def admits : Setting → Yaml.Value → Bool
  | version, .real _ => false
  | version, value => value.standsForText
  | schema, value => value.standsForText
  | lang, .null => true
  | lang, value => value.standsForText
  | fallbackText, .null => true
  | fallbackText, value => value.standsForText
  | indent, .null => true
  | indent, .integer width => 0 ≤ width
  | indent, _ => false

/-- Whether a value that a setting takes can be written there: a text has no integer of more digits
than are written. -/
def canWrite (setting : Setting) (value : Yaml.Value) : Bool :=
  setting = indent || !value.hasLongInteger

/-- The report of a value that a setting does not take, or that cannot be written. -/
def refusal : Setting → Yaml.Value → OptionFault
  | version, .real number => .numericVersion (.real number)
  | indent, value => .indent value
  | setting, value => if value.standsForText then .tooLong else .notText setting value

/-- A reading that finds something if `taken` holds, and otherwise ends with a report. -/
def Reads {content : Type} (taken : Bool) (report : OptionFault)
    (reading : Except OptionFault content) : Prop :=
  (taken = true ∧ ∃ found, reading = .ok found) ∨ (taken = false ∧ reading = .error report)

theorem reads_textOf (setting : Setting) (value : Yaml.Value) :
    Reads (value.standsForText && !value.hasLongInteger)
      (if value.standsForText then .tooLong else .notText setting value)
      (textOf setting value) := by
  by_cases long : value.hasLongInteger
  · cases value <;> simp [Reads, textOf, Yaml.Value.standsForText, long]
  · cases value <;> simp [Reads, textOf, Yaml.Value.standsForText, long]

theorem canWrite_of_ne {setting : Setting} (text : setting ≠ indent) (value : Yaml.Value) :
    setting.canWrite value = !value.hasLongInteger := by
  simp [canWrite, text]

/-- A setting that reads a value as text takes it if it stands for text and can be written. -/
theorem reads_of_textOf {setting : Setting} {value : Yaml.Value} {content : Type}
    {reading : Except OptionFault content} (wrap : CodeText → content) (text : setting ≠ indent)
    (admitted : setting.admits value = value.standsForText)
    (report : setting.refusal value =
      if value.standsForText then .tooLong else .notText setting value)
    (read : reading = (textOf setting value).map wrap) :
    Reads (setting.admits value && setting.canWrite value) (setting.refusal value) reading := by
  rw [admitted, canWrite_of_ne text, report, read]
  obtain ⟨taken, found, ends⟩ | ⟨refused, ends⟩ := reads_textOf setting value
  · exact .inl ⟨taken, wrap found, by rw [ends]; rfl⟩
  · exact .inr ⟨refused, by rw [ends]; rfl⟩

/-- Reading a value finds something if the setting takes it and it can be written, and otherwise
ends with the report of the setting. -/
theorem reads_read (setting : Setting) (value : Yaml.Value) :
    Reads (setting.admits value && setting.canWrite value) (setting.refusal value)
      (setting.read value) := by
  have unwrapped (found : Except OptionFault CodeText) : found = found.map id := by
    cases found <;> rfl
  cases setting with
  | version =>
      cases value with
      | real number => exact .inr ⟨rfl, rfl⟩
      | _ => exact reads_of_textOf id (by decide) rfl rfl (unwrapped _)
  | schema => exact reads_of_textOf id (by decide) rfl rfl (unwrapped _)
  | lang =>
      cases value with
      | null => exact .inl ⟨rfl, none, rfl⟩
      | _ => exact reads_of_textOf some (by decide) rfl rfl rfl
  | fallbackText =>
      cases value with
      | null => exact .inl ⟨rfl, none, rfl⟩
      | _ => exact reads_of_textOf some (by decide) rfl rfl rfl
  | indent =>
      cases value with
      | null => exact .inl ⟨rfl, none, rfl⟩
      | integer width =>
          by_cases negative : width < 0
          · exact .inr ⟨by simp [admits, canWrite, negative],
              by simp [read, indentOf, refusal, negative]⟩
          · have natural : 0 ≤ width := by omega
            exact .inl ⟨by simp [admits, canWrite, natural], some width.toNat,
              by simp [read, indentOf, negative]⟩
      | _ => exact .inr ⟨rfl, rfl⟩

end Setting

/-! ## Mappings -/

/-- An entry of a mapping of options: its key and its value. -/
abbrev OptionEntry := Yaml.Value × Yaml.Value

/-- Whether an entry is laid over options without a report: its key can be written, and the setting
that the key names, if any, takes the value. -/
def OptionEntry.isAdmitted (entry : OptionEntry) : Bool :=
  !entry.1.hasLongInteger &&
    match Setting.ofKey? entry.1 with
    | none => true
    | some setting => setting.admits entry.2 && setting.canWrite entry.2

/-- The report of an entry that is not admitted. -/
def OptionEntry.refusal (entry : OptionEntry) : OptionFault :=
  match Setting.ofKey? entry.1 with
  | some setting => if entry.1.hasLongInteger then .tooLong else setting.refusal entry.2
  | none => .tooLong

/-- The last value that a mapping gives to a setting, under whichever of its keys. -/
def lastValue? (setting : Setting) (mapping : List OptionEntry) : Option Yaml.Value :=
  ((mapping.filter fun entry => Setting.ofKey? entry.1 = some setting).map Prod.snd).getLast?

theorem lastValue?_cons (setting : Setting) (entry : OptionEntry) (mapping : List OptionEntry) :
    lastValue? setting (entry :: mapping) =
      (lastValue? setting mapping).or
        (if Setting.ofKey? entry.1 = some setting then some entry.2 else none) := by
  by_cases names : Setting.ofKey? entry.1 = some setting
  · simp [lastValue?, names, List.getLast?_cons]
  · simp [lastValue?, names]

/-- A setting has come from one state of the options to another by a value: it holds what the value
stands for there, or is as before if there is none. -/
def Setting.Settles (setting : Setting) (before after : CardOptions) : Option Yaml.Value → Prop
  | some value => setting.read value = .ok (after.get setting)
  | none => after.get setting = before.get setting

/-- Of two values in a row the second one counts, if there is one. -/
theorem Setting.Settles.trans {setting : Setting} {before middle after : CardOptions}
    {first second : Option Yaml.Value} (one : setting.Settles before middle first)
    (other : setting.Settles middle after second) :
    setting.Settles before after (second.or first) := by
  cases second with
  | some value => exact other
  | none =>
      have kept : after.get setting = middle.get setting := other
      cases first with
      | some value =>
          have read : setting.read value = .ok (middle.get setting) := one
          rwa [← kept] at read
      | none => exact Eq.trans kept one

namespace CardOptions

/-- An admitted entry changes the setting that its key names, and no other. -/
theorem overlay_cons_of_admitted {entry : OptionEntry} (admitted : entry.isAdmitted)
    (options : CardOptions) :
    ∃ next : CardOptions, (∀ mapping, options.overlay (entry :: mapping) = next.overlay mapping) ∧
      ∀ setting : Setting, setting.Settles options next
        (if Setting.ofKey? entry.1 = some setting then some entry.2 else none) := by
  obtain ⟨key, value⟩ := entry
  obtain ⟨short, fits⟩ := Bool.and_eq_true_iff.mp admitted
  have writable : key.hasLongInteger = false := by simpa using short
  cases named : Setting.ofKey? key with
  | none =>
      refine ⟨options, fun mapping => ?_, fun setting => ?_⟩
      · simp [overlay, writable, named]
      · simp [Setting.Settles]
  | some target =>
      have taken : (target.admits value && target.canWrite value) = true := by
        simpa [named] using fits
      obtain ⟨-, content, read⟩ | ⟨refused, -⟩ := target.reads_read value
      · refine ⟨options.put target content, fun mapping => ?_, fun setting => ?_⟩
        · simp only [overlay, writable, named, set_eq, read]
          rfl
        · by_cases same : target = setting
          · subst same
            simpa [Setting.Settles] using read
          · have kept := options.get_put_of_ne (Ne.symm same) content
            simpa [Setting.Settles, same] using kept
      · rw [taken] at refused
        cases refused

/-- An entry that is not admitted ends the mapping with its report. -/
theorem overlay_cons_of_refused {entry : OptionEntry} (refused : entry.isAdmitted = false)
    (options : CardOptions) (mapping : List OptionEntry) :
    options.overlay (entry :: mapping) = .error entry.refusal := by
  obtain ⟨key, value⟩ := entry
  by_cases long : key.hasLongInteger
  · cases named : Setting.ofKey? key with
    | none => simp [overlay, OptionEntry.refusal, named, long]
    | some target => simp [overlay, OptionEntry.refusal, named, long]
  · cases named : Setting.ofKey? key with
    | none => simp [OptionEntry.isAdmitted, named, long] at refused
    | some target =>
        obtain ⟨taken, -⟩ | ⟨-, read⟩ := target.reads_read value
        · simp [OptionEntry.isAdmitted, named, long, taken] at refused
        · simp only [overlay, OptionEntry.refusal, named, long, set_eq, read]
          rfl

/-- A mapping is refused with the report of its first entry that is not admitted, whatever the
options are. -/
theorem overlay_eq_error (options : CardOptions) (mapping : List OptionEntry)
    (fault : OptionFault) :
    options.overlay mapping = .error fault ↔
      ∃ entry, mapping.find? (!·.isAdmitted) = some entry ∧ entry.refusal = fault := by
  induction mapping generalizing options with
  | nil => simp [overlay]
  | cons entry mapping induction =>
      cases admitted : entry.isAdmitted with
      | true =>
          obtain ⟨next, reduces, -⟩ := overlay_cons_of_admitted admitted options
          rw [reduces, induction next, List.find?_cons_of_neg (by simp [admitted])]
      | false =>
          rw [overlay_cons_of_refused admitted, List.find?_cons_of_pos (by simp [admitted])]
          simp

/-- A mapping of admitted entries gives each setting its last value. -/
theorem overlay_of_admitted {mapping : List OptionEntry} (admitted : mapping.all (·.isAdmitted))
    (options : CardOptions) :
    ∃ next : CardOptions, options.overlay mapping = .ok next ∧
      ∀ setting : Setting, setting.Settles options next (lastValue? setting mapping) := by
  induction mapping generalizing options with
  | nil => exact ⟨options, rfl, fun setting => rfl⟩
  | cons entry mapping induction =>
      obtain ⟨first, others⟩ := Bool.and_eq_true_iff.mp admitted
      obtain ⟨middle, reduces, one⟩ := overlay_cons_of_admitted first options
      obtain ⟨next, laid, rest⟩ := induction others middle
      refine ⟨next, (reduces mapping).trans laid, fun setting => ?_⟩
      rw [lastValue?_cons]
      exact (one setting).trans (rest setting)

/-- Laying a text of options over others lays its entries over them. -/
theorem overlayText_eq (host : Host) (options : CardOptions) (text : String) :
    options.overlayText host text =
      optionEntries host text >>= fun entries => (options.overlay entries).mapError .value := by
  rw [overlayText]
  congr 1
  funext entries
  cases options.overlay entries <;> rfl

/-! ## Sequences of mappings -/

/-- Lay mappings over options one after the other; one that is refused changes nothing. -/
def overlayAll (options : CardOptions) (mappings : List (List OptionEntry)) : CardOptions :=
  mappings.foldl (fun options mapping => (options.overlay mapping).toOption.getD options) options

end CardOptions

/-- The value that decides about a setting: the last one that it is given in the last mapping that
is not refused and gives it one. -/
def decisiveValue? (setting : Setting) (mappings : List (List OptionEntry)) : Option Yaml.Value :=
  ((mappings.filter fun mapping => mapping.all (·.isAdmitted)).filterMap
    (lastValue? setting)).getLast?

theorem decisiveValue?_cons (setting : Setting) (mapping : List OptionEntry)
    (mappings : List (List OptionEntry)) :
    decisiveValue? setting (mapping :: mappings) =
      (decisiveValue? setting mappings).or
        (if mapping.all (·.isAdmitted) then lastValue? setting mapping else none) := by
  by_cases admitted : mapping.all (·.isAdmitted)
  · cases last : lastValue? setting mapping with
    | none => simp [decisiveValue?, last, admitted]
    | some value =>
        simp [decisiveValue?, last, admitted, List.getLast?_cons]
  · simp [decisiveValue?, admitted]

namespace CardOptions

/-- Laying one mapping over options gives every setting its last value, or changes nothing. -/
theorem settles_overlay (options : CardOptions) (mapping : List OptionEntry) (setting : Setting) :
    setting.Settles options ((options.overlay mapping).toOption.getD options)
      (if mapping.all (·.isAdmitted) then lastValue? setting mapping else none) := by
  by_cases admitted : mapping.all (·.isAdmitted)
  · obtain ⟨next, laid, settled⟩ := overlay_of_admitted admitted options
    rw [laid, if_pos admitted]
    exact settled setting
  · have refused : (mapping.find? (!·.isAdmitted)).isSome := by
      simpa [List.find?_isSome] using admitted
    obtain ⟨entry, found⟩ := Option.isSome_iff_exists.mp refused
    have stops := (options.overlay_eq_error mapping entry.refusal).mpr ⟨entry, found, rfl⟩
    rw [stops, if_neg admitted]
    rfl

theorem settles_overlayAll (options : CardOptions) (mappings : List (List OptionEntry))
    (setting : Setting) :
    setting.Settles options (options.overlayAll mappings) (decisiveValue? setting mappings) := by
  induction mappings generalizing options with
  | nil => rfl
  | cons mapping mappings induction =>
      have first := options.settles_overlay mapping setting
      have rest := induction ((options.overlay mapping).toOption.getD options)
      rw [decisiveValue?_cons]
      exact first.trans rest

/-- An entry whose key names no setting changes nothing. -/
theorem overlay_unknown {entry : OptionEntry} (unknown : Setting.ofKey? entry.1 = none)
    (short : entry.1.hasLongInteger = false) (before after : List OptionEntry)
    (options : CardOptions) :
    options.overlay (before ++ entry :: after) = options.overlay (before ++ after) := by
  induction before generalizing options with
  | nil =>
      obtain ⟨key, value⟩ := entry
      simp only [List.nil_append, overlay, short, unknown]
      rfl
  | cons first before induction =>
      cases admitted : first.isAdmitted with
      | true =>
          obtain ⟨next, reduces, -⟩ := overlay_cons_of_admitted admitted options
          rw [List.cons_append, List.cons_append, reduces, reduces, induction next]
      | false =>
          rw [List.cons_append, List.cons_append, overlay_cons_of_refused admitted,
            overlay_cons_of_refused admitted]

/-- A mapping is refused if one of its keys cannot be written or names a setting that does not take
the value. -/
theorem exists_overlay_eq_error (options : CardOptions) (mapping : List OptionEntry) :
    (∃ fault, options.overlay mapping = .error fault) ↔
      ∃ key value, (key, value) ∈ mapping ∧ (key.hasLongInteger = true ∨
        ∃ setting, Setting.ofKey? key = some setting ∧
          (setting.admits value && setting.canWrite value) = false) := by
  have refused (key value : Yaml.Value) : OptionEntry.isAdmitted (key, value) = false ↔
      key.hasLongInteger = true ∨ ∃ setting, Setting.ofKey? key = some setting ∧
        (setting.admits value && setting.canWrite value) = false := by
    cases named : Setting.ofKey? key with
    | none => simp [OptionEntry.isAdmitted, named]
    | some setting => cases long : key.hasLongInteger <;> simp [OptionEntry.isAdmitted, named, long]
  constructor
  · rintro ⟨fault, stops⟩
    obtain ⟨⟨key, value⟩, found, -⟩ := (options.overlay_eq_error mapping fault).mp stops
    have bad : OptionEntry.isAdmitted (key, value) = false := by
      simpa using List.find?_some found
    exact ⟨key, value, List.mem_of_find?_eq_some found, (refused key value).mp bad⟩
  · rintro ⟨key, value, member, bad⟩
    have some_refused : (mapping.find? (!·.isAdmitted)).isSome := by
      rw [List.find?_isSome]
      exact ⟨(key, value), member, by simp [(refused key value).mpr bad]⟩
    obtain ⟨entry, found⟩ := Option.isSome_iff_exists.mp some_refused
    exact ⟨entry.refusal, (options.overlay_eq_error mapping _).mpr ⟨entry, found, rfl⟩⟩

end CardOptions

/-- The layering of options.  A mapping is refused exactly when it holds a key that names a setting
together with a value that the setting does not take, even if the setting gets another value later
on, with the report of the first such entry and whatever the options are; integers that are too long
to be written count as values that are not taken.  After a sequence of mappings each setting holds
what its last value in the last mapping that is not refused and gives it one stands for, and what it
held at the start if there is none.  Entries whose keys name no setting change nothing. -/
theorem CardOptions.overlayAll_layered (base : CardOptions)
    (mappings : List (List OptionEntry)) :
    (∀ (options : CardOptions) (mapping : List OptionEntry) (fault : OptionFault),
        options.overlay mapping = .error fault ↔
          ∃ entry, mapping.find? (!·.isAdmitted) = some entry ∧ entry.refusal = fault) ∧
      (∀ (options : CardOptions) (mapping : List OptionEntry),
        (∃ fault, options.overlay mapping = .error fault) ↔
          ∃ key value, (key, value) ∈ mapping ∧ (key.hasLongInteger = true ∨
            ∃ setting, Setting.ofKey? key = some setting ∧
              (setting.admits value && setting.canWrite value) = false)) ∧
      (∀ setting : Setting,
        setting.Settles base (base.overlayAll mappings) (decisiveValue? setting mappings)) ∧
      ∀ entry : OptionEntry, Setting.ofKey? entry.1 = none → entry.1.hasLongInteger = false →
        ∀ (before after : List OptionEntry) (options : CardOptions),
          options.overlay (before ++ entry :: after) = options.overlay (before ++ after) :=
  ⟨overlay_eq_error, exists_overlay_eq_error, base.settles_overlayAll mappings,
    fun _ unknown short => overlay_unknown unknown short⟩

/-- A mapping whose second entry is refused, although the third one gives the setting a text. -/
def refusedLayer : List OptionEntry :=
  [(.text "schema", .text "second"), (.text "fallback_text", .list []),
    (.text "fallbackText", .text "late")]

/-- Three mappings: the second is refused, the last one gives the schema twice. -/
def threeLayers : List (List OptionEntry) :=
  [[(.text "lang", .text "de"), (.text "$schema", .text "first"), (.text "title", .null)],
    refusedLayer, [(.text "$schema", .text "third"), (.text "schema", .text "fourth")]]

/-- The schema is the last one that was given, and the text of the mapping that is refused counts
for nothing, nor does the title. -/
theorem CardOptions.overlayAll_layered_three :
    (∃ fault, ({} : CardOptions).overlay refusedLayer = .error fault) ∧
      Setting.schema.Settles {} (({} : CardOptions).overlayAll threeLayers)
        (some (.text "fourth")) ∧
      Setting.fallbackText.Settles {} (({} : CardOptions).overlayAll threeLayers) none ∧
      ({} : CardOptions).overlay [(.text "title", .null), (.text "lang", .text "de")] =
        ({} : CardOptions).overlay [(.text "lang", .text "de")] := by
  obtain ⟨-, refused, settled, unknown⟩ := overlayAll_layered {} threeLayers
  refine ⟨(refused {} refusedLayer).mpr ⟨.text "fallback_text", .list [], ?_, .inr ?_⟩,
    settled .schema, settled .fallbackText, ?_⟩
  · simp [refusedLayer]
  · exact ⟨.fallbackText, by decide, rfl⟩
  · exact unknown (.text "title", .null) (by decide) rfl [] [(.text "lang", .text "de")] {}

end CardPress
