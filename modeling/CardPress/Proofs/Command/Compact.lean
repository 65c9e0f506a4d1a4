import CardPress.Proofs.Card.Wire
import CardPress.Proofs.Command.Delivery
import CardPress.Proofs.Conversion.Reports
import Mathlib.Data.List.Count

/-!
# Compact runs

The flag for compact text takes the indentation away from whatever options a command line sets.  The
front matter of a document is laid over those options like over any others, so that a number there
brings an indentation back.  Without such a number the card of a compact run is one line.
-/

namespace CardPress

variable {host : Host}

/-! ## The indentation of a document -/

/-- The indentation that entries ask for: the number that they give it last. -/
def indentIn (entries : List OptionEntry) : Option Nat :=
  match lastValue? .indent entries with
  | some (.integer width) => some width.toNat
  | _ => none

/-- The indentation that the front matter of a document asks for. -/
def Document.indent? (document : Document) (host : Host) : Option Nat :=
  (document.entries host).toOption.bind indentIn

namespace CardOptions

variable {options settings : CardOptions} {entries : List OptionEntry}

/-- Entries that have been laid over options are all admitted. -/
theorem all_isAdmitted_of_overlay (laid : options.overlay entries = .ok settings) :
    entries.all (·.isAdmitted) = true := by
  by_contra unadmitted
  have refused : (entries.find? (!·.isAdmitted)).isSome := by
    simpa [List.find?_isSome] using unadmitted
  obtain ⟨entry, found⟩ := Option.isSome_iff_exists.mp refused
  have stops := (options.overlay_eq_error entries entry.refusal).mpr ⟨entry, found, rfl⟩
  cases laid.symm.trans stops

/-- Entries that have been laid over options give each setting its last value. -/
theorem settles_of_overlay (laid : options.overlay entries = .ok settings) (setting : Setting) :
    setting.Settles options settings (lastValue? setting entries) := by
  have settled := options.settles_overlay entries setting
  rw [laid, if_pos (all_isAdmitted_of_overlay laid)] at settled
  exact settled

/-- Over options without an indentation, only entries that ask for one bring one. -/
theorem indent_of_overlay (unset : options.indent = none)
    (laid : options.overlay entries = .ok settings) : settings.indent = indentIn entries := by
  have settled := settles_of_overlay laid .indent
  unfold indentIn
  cases last : lastValue? .indent entries with
  | none =>
      rw [last] at settled
      exact Eq.trans settled unset
  | some value =>
      rw [last] at settled
      have read : indentOf value = .ok settings.indent := settled
      cases value with
      | integer width =>
          by_cases negative : width < 0
          · simp [indentOf, negative] at read
          · simpa [indentOf, negative, eq_comm] using read
      | null => exact (Except.ok.inj read).symm
      | _ => cases read

end CardOptions

/-- With options that have no indentation, the JSON text of a card is indented as the front matter
of its document asks. -/
theorem convertToJson_compact {options : CardOptions} {text : String} {json : CodeText}
    (unset : options.indent = none) (written : convertToJson host options text = .ok json) :
    ∃ (document : Document) (card : Card), Document.parse host text = .ok document ∧
      renderBody document.blocks = .ok card.body ∧
      json = card.serialize (document.indent? host) := by
  obtain ⟨⟨card, settings⟩, converted, written⟩ := bind_eq_ok.mp written
  change card.serialize? host settings.indent = .ok json at written
  obtain ⟨document, entries, body, read, found, laid, rendered, rfl⟩ := convert_eq_ok.mp converted
  refine ⟨document, settings.card body, read, rendered, ?_⟩
  have asked : document.indent? host = settings.indent := by
    rw [CardOptions.indent_of_overlay unset laid, Document.indent?, found]
    rfl
  rw [asked]
  obtain ⟨written', -⟩ | ⟨width, -, -, refused⟩ :=
    serialize?_cases host (settings.card body) settings.indent
  · exact Except.ok.inj (written.symm.trans written')
  · cases written.symm.trans refused

/-! ## Line feeds in cards -/

/-- With an indentation, the first field of a card stands on a line of its own. -/
theorem Card.lineFeed_mem_serialize (card : Card) (width : Nat) :
    .char '\n' ∈ (card.serialize (some width)).points := by
  simp [serialize, toJson, Json.ofFields, Json.print, Json.render, Json.lineBreak]

/-- The text of a card and a line feed are one line exactly when there is no indentation. -/
theorem Card.count_lineFeed (card : Card) (indent : Option Nat) :
    (card.serialize indent ++ .ofString "\n").points.count (.char '\n') = 1 ↔ indent = none := by
  rw [CodeText.points_append, List.count_append]
  change (card.serialize indent).points.count (.char '\n') + 1 = 1 ↔ _
  rw [Nat.add_eq_right, List.count_eq_zero]
  cases indent with
  | none =>
      refine iff_of_true (fun member => ?_) rfl
      exact (card.serialize_oneLine (.char '\n') member).1 rfl
  | some width =>
      exact iff_of_false (fun absent => absent (card.lineFeed_mem_serialize width)) (by simp)

theorem CodeText.count_ofString (text : String) (c : Char) :
    (ofString text).points.count (.char c) = text.toList.count c :=
  List.count_map_of_injective _ _ (fun _ _ => CodePoint.char.inj) c

namespace Command

/-! ## The flag -/

theorem readWords_cons_eq_ok {word : String} {words : List String} {meanings : List Word}
    (other : word ≠ "--") (read : readWords (word :: words) = .ok meanings) :
    ∃ meaning later, readWord word = .ok meaning ∧ readWords words = .ok later ∧
      meanings = meaning :: later := by
  rw [readWords, if_neg other] at read
  obtain ⟨meaning, first, read⟩ := bind_eq_ok.mp read
  obtain ⟨later, others, read⟩ := bind_eq_ok.mp read
  exact ⟨meaning, later, first, others, (Except.ok.inj read).symm⟩

/-- In front of the separator, the word for compact text is the flag for it. -/
theorem compact_mem_of_readWords {words : List String} {meanings : List Word}
    (member : "--compact" ∈ words.takeWhile (· ≠ "--")) (read : readWords words = .ok meanings) :
    .flag .compact none ∈ meanings := by
  induction words generalizing meanings with
  | nil => cases member
  | cons word words induction =>
      by_cases separator : word = "--"
      · simp [separator] at member
      · rw [List.takeWhile_cons_of_pos (by simpa using separator), List.mem_cons] at member
        obtain ⟨meaning, later, first, others, rfl⟩ := readWords_cons_eq_ok separator read
        rcases member with rfl | member
        · cases first
          exact List.mem_cons_self
        · exact List.mem_cons_of_mem _ (induction member others)

/-- The text is compact in the end when a flag for it has been read or is still to be read. -/
theorem Progress.compact_iff_of_read {progress final : Progress} {words : List Word}
    (read : progress.read words = .ok final) :
    final.compact = true ↔ progress.compact = true ∨ .flag .compact none ∈ words := by
  fun_induction Progress.read progress words with
  | case1 progress =>
      cases read
      simp
  | case9 | case10 | case17 => cases read
  | _ =>
      rename_i induction
      simpa using induction read

namespace Arguments

/-- A command line with the word for compact text in front of the separator asks for it. -/
theorem compact_of_parse {words : List String} {arguments : Arguments}
    (member : "--compact" ∈ words.takeWhile (· ≠ "--"))
    (parsed : Arguments.parse words = .ok arguments) : arguments.compact = true := by
  obtain ⟨meanings, meant, parsed⟩ := bind_eq_ok.mp parsed
  obtain ⟨progress, read, parsed⟩ := bind_eq_ok.mp parsed
  have flagged : progress.compact = true :=
    (Progress.compact_iff_of_read read).mpr (.inr (compact_mem_of_readWords member meant))
  cases input : progress.input with
  | none =>
      rw [input] at parsed
      cases parsed
  | some word =>
      rw [input] at parsed
      cases extra : progress.extra with
      | true => simp [extra, bind, Except.bind, throw, throwThe, MonadExceptOf.throw] at parsed
      | false =>
          simp only [extra] at parsed
          cases parsed
          exact flagged

/-- A run that ends with status zero has delivered what its command line asks for. -/
theorem delivers_of_status {arguments : Arguments} {tree : FileTree} {standardInput : List UInt8}
    (ended : (arguments.run host tree standardInput).status = .ok 0) :
    ∃ sink json, arguments.Asks host tree.find standardInput sink json ∧
      (arguments.run host tree standardInput).Delivers tree (json ++ .ofString "\n") sink := by
  obtain ⟨stop, -, status, -⟩ | ⟨sink, json, asks, ⟨-, delivered⟩ |
    ⟨-, ⟨path, fault, -, status, -⟩ | ⟨-, status, -⟩⟩⟩ :=
    arguments.run_cases host tree standardInput
  · exact absurd (status.symm.trans ended) stop.status_ne_zero
  · exact ⟨sink, json, asks, delivered⟩
  · cases status.symm.trans ended
  · cases status.symm.trans ended

/-- A run with the flag for compact text that ends with status zero delivers the card of its input,
indented as the front matter of the input asks. -/
theorem delivers_compact {arguments : Arguments} {tree : FileTree} {standardInput : List UInt8}
    (compact : arguments.compact = true)
    (ended : (arguments.run host tree standardInput).status = .ok 0) :
    ∃ (source : Source) (sink : Sink) (text : String) (document : Document) (card : Card),
      Source.locate host tree.find arguments.input = .ok source ∧
      Sink.locate tree.find source arguments.output = .ok sink ∧
      source.read tree.find standardInput = .ok text ∧
      Document.parse host text = .ok document ∧ renderBody document.blocks = .ok card.body ∧
      (arguments.run host tree standardInput).Delivers tree
        (card.serialize (document.indent? host) ++ .ofString "\n") sink := by
  obtain ⟨sink, json, asks, delivered⟩ := delivers_of_status ended
  obtain ⟨source, text, options, located, led, held, sets, written⟩ := asks
  obtain ⟨configured, -, options_eq⟩ := sets
  have unset : options.indent = none := by
    rw [options_eq, if_pos compact]
  obtain ⟨document, card, read, rendered, rfl⟩ := convertToJson_compact unset written
  exact ⟨source, sink, text, document, card, located, led, held, read, rendered, delivered⟩

/-- A run with the flag for compact text that ends with status zero delivers the card of its input
and a line feed.  The card is one line without an indentation unless the front matter of the input
asks for an indentation itself, which goes over the flag as over all other options; then the card
is indented so, on more than one line.  The word for the flag counts wherever it stands in front of
the separator. -/
theorem run_compact (arguments : Arguments) (host : Host) (tree : FileTree)
    (standardInput : List UInt8) :
    (∀ words, Arguments.parse words = .ok arguments →
        "--compact" ∈ words.takeWhile (· ≠ "--") → arguments.compact = true) ∧
      (arguments.compact = true → (arguments.run host tree standardInput).status = .ok 0 →
        ∃ (source : Source) (sink : Sink) (text : String) (document : Document) (card : Card),
          Source.locate host tree.find arguments.input = .ok source ∧
          Sink.locate tree.find source arguments.output = .ok sink ∧
          source.read tree.find standardInput = .ok text ∧
          Document.parse host text = .ok document ∧ renderBody document.blocks = .ok card.body ∧
          (arguments.run host tree standardInput).Delivers tree
            (card.serialize (document.indent? host) ++ .ofString "\n") sink ∧
          ((card.serialize (document.indent? host) ++ .ofString "\n").points.count
              (.char '\n') = 1 ↔ document.indent? host = none)) := by
  refine ⟨fun words parsed member => compact_of_parse member parsed, fun compact ended => ?_⟩
  obtain ⟨source, sink, text, document, card, located, led, held, read, rendered, delivered⟩ :=
    delivers_compact compact ended
  exact ⟨source, sink, text, document, card, located, led, held, read, rendered, delivered,
    card.count_lineFeed (document.indent? host)⟩

/-- A note on the standard input that is made compact, with a file of options in the home
directory. -/
def compactArguments : Arguments :=
  { input := "-", config := some "~/card.yaml", compact := true }

/-- A home directory with options that indent. -/
def indentedTree : FileTree :=
  { items :=
      [(["home"], .directory), (["home", "card.yaml"], .file (Text.encodeUtf8 "indent: 4\n"))] }

/-- A note that asks for an indentation itself. -/
def indentedNote : String :=
  "---\nindent: 0\n---\nHi\n"

/-- Of two notes one asks for an indentation. -/
theorem run_compactArguments :
    (compactArguments.run homeHost indentedTree (Text.encodeUtf8 "Hi\n")).status.toOption =
        some 0 ∧
      (compactArguments.run homeHost indentedTree
        (Text.encodeUtf8 indentedNote)).status.toOption = some 0 ∧
      (Document.parse homeHost indentedNote).toOption.map (·.indent? homeHost) =
        some (some 0) := by
  decide +kernel

theorem parse_compactArguments :
    Arguments.parse ["--config=~/card.yaml", "--compact", "-"] = .ok compactArguments := by
  decide

/-- The options in the file indent, and still the card of the note is one line. -/
theorem run_compact_line :
    Arguments.parse ["--config=~/card.yaml", "--compact", "-"] = .ok compactArguments ∧
      compactArguments.compact = true ∧
      (compactArguments.run homeHost indentedTree
        (Text.encodeUtf8 "Hi\n")).output.toList.count '\n' = 1 := by
  obtain ⟨flagged, delivers⟩ :=
    run_compact compactArguments homeHost indentedTree (Text.encodeUtf8 "Hi\n")
  have compact := flagged _ parse_compactArguments (by decide)
  obtain ⟨source, sink, text, document, card, located, led, held, read, -, delivered, oneLine⟩ :=
    delivers compact (toOption_eq_some.mp run_compactArguments.1)
  have plain : (Document.parse homeHost "Hi\n").toOption.map (·.frontMatter) = some none := by
    with_unfolding_all rfl
  have same : (Source.standardInput.read indentedTree.find (Text.encodeUtf8 "Hi\n")).toOption =
      some "Hi\n" := by
    decide +kernel
  cases located
  cases led
  rw [held] at same
  cases same
  rw [read] at plain
  have absent : document.frontMatter = none := Option.some.inj plain
  have unset : document.indent? homeHost = none := by
    simp [Document.indent?, Document.entries, absent, Except.toOption, indentIn, lastValue?]
  have single := oneLine.mpr unset
  rw [delivered.1, CodeText.count_ofString] at single
  exact ⟨parse_compactArguments, compact, single⟩

/-- A note that asks for an indentation gets it, although the command line asks for compact text. -/
theorem run_compact_ne_line :
    ∃ arguments host tree standardInput,
      Arguments.parse ["--config=~/card.yaml", "--compact", "-"] = .ok arguments ∧
        (arguments.run host tree standardInput).status = .ok 0 ∧
        (arguments.run host tree standardInput).output.toList.count '\n' ≠ 1 := by
  obtain ⟨-, status, asked⟩ := run_compactArguments
  have ended := toOption_eq_some.mp status
  obtain ⟨source, sink, text, document, card, located, led, held, read, -, delivered⟩ :=
    delivers_compact rfl ended
  have same : (Source.standardInput.read indentedTree.find
      (Text.encodeUtf8 indentedNote)).toOption = some indentedNote := by
    decide +kernel
  cases located
  cases led
  rw [held] at same
  cases same
  rw [read] at asked
  have indented : document.indent? homeHost = some 0 := Option.some.inj asked
  refine ⟨compactArguments, homeHost, indentedTree, Text.encodeUtf8 indentedNote,
    parse_compactArguments, ended, ?_⟩
  rw [← CodeText.count_ofString, ← delivered.1, Ne, card.count_lineFeed, indented]
  simp

end Arguments

end Command

end CardPress
