import CardPress.Text.Digits
import CardPress.Text.Lines

/-!
# Arguments of the command line

The words of a command line are read as the path of the input and as flags.  Long flags may be
shortened as long as they stay clear, and the value of a flag may follow it in the same word.
-/

namespace CardPress
namespace Command

/-- What the command line asks for. -/
structure Arguments where
  input : String
  output : Option String := none
  config : Option String := none
  compact : Bool := false
  verbose : Bool := false
  deriving DecidableEq, Repr, Inhabited

/-- Why a command line does not ask for a conversion. -/
inductive Usage where
  /-- It asks for help. -/
  | help
  /-- It cannot be understood. -/
  | invalid
  deriving DecidableEq, Repr

/-- The status with which the program ends. -/
def Usage.status : Usage → Nat
  | help => 0
  | invalid => 2

/-- The flags. -/
inductive Flag where
  | help
  | output
  | config
  | compact
  | verbose
  deriving DecidableEq, Repr

/-- The spellings of the flags. -/
def flagNames : List (String × Flag) :=
  [("-h", .help), ("--help", .help), ("-o", .output), ("--output", .output),
    ("--config", .config), ("--compact", .compact), ("--verbose", .verbose)]

/-- What a word of the command line means. -/
inductive Word where
  | plain (text : String)
  /-- Two hyphens, behind which every word is plain. -/
  | separator
  | flag (flag : Flag) (value : Option String)
  /-- The short flag for help, with more letters behind it. -/
  | helpWith (letters : List Char)
  | unknown
  deriving DecidableEq, Repr

/-- Whether a word that starts with a hyphen is a negative number. -/
def isNegativeNumber (chars : List Char) : Bool :=
  let isDigit (c : Char) := (Text.digitValue? c).isSome
  match chars with
  | '-' :: rest =>
      let whole := rest.takeWhile isDigit
      match rest.drop whole.length with
      | [] => !whole.isEmpty
      | '.' :: fraction => !fraction.isEmpty && fraction.all isDigit
      | _ => false
  | _ => false

/-- The name of a flag and the value behind an equals sign. -/
def cutAtEquals (word : String) : String × Option String :=
  let chars := word.toList
  let name := chars.takeWhile (· != '=')
  match chars.drop name.length with
  | _ :: value => (String.ofList name, some (String.ofList value))
  | [] => (word, none)

/-- The meaning of a word that is no spelling of a flag as a whole. -/
def readShortened (word : String) : Except Usage Word :=
  let (name, value) := cutAtEquals word
  let other : Word :=
    if isNegativeNumber word.toList || word.toList.contains ' ' then .plain word else .unknown
  match word.toList with
  | '-' :: '-' :: _ =>
      match flagNames.filter fun entry => name.toList.isPrefixOf entry.1.toList with
      | [] => .ok other
      | [(_, flag)] => .ok (.flag flag value)
      | _ => .error .invalid
  | '-' :: 'o' :: rest => .ok (.flag .output (some (String.ofList rest)))
  | '-' :: 'h' :: rest => .ok (.helpWith rest)
  | _ => .ok other

/-- The meaning of a word in front of the separator. -/
def readWord (word : String) : Except Usage Word :=
  if word.toList.head? != some '-' || word = "-" then .ok (.plain word)
  else
    match flagNames.lookup word with
    | some flag => .ok (.flag flag none)
    | none =>
        match cutAtEquals word with
        | (name, some value) =>
            match flagNames.lookup name with
            | some flag => .ok (.flag flag (some value))
            | none => readShortened word
        | (_, none) => readShortened word

/-- The meanings of all words. -/
def readWords : List String → Except Usage (List Word)
  | [] => .ok []
  | word :: words =>
      if word = "--" then .ok (.separator :: words.map .plain)
      else do return (← readWord word) :: (← readWords words)

/-- What has been read of a command line. -/
structure Progress where
  input : Option String := none
  output : Option String := none
  config : Option String := none
  compact : Bool := false
  verbose : Bool := false
  /-- Whether there is a word without a meaning. -/
  extra : Bool := false
  deriving DecidableEq, Repr, Inhabited

/-- The end of a command line that asks for help, with more letters behind the short flag. -/
def helpUsage (isFollowed : Bool) : List Char → Usage
  | [] => .help
  | '-' :: _ => .invalid
  | '=' :: _ => .invalid
  | 'h' :: rest => helpUsage isFollowed rest
  | 'o' :: [] => if isFollowed then .help else .invalid
  | _ => .help

/-- Whether the next word may be the value of a flag. -/
def startsPlain : List Word → Bool
  | .plain _ :: _ => true
  | _ => false

/-- Take the words into account one after the other. -/
def Progress.read (progress : Progress) : List Word → Except Usage Progress
  | [] => .ok progress
  | .plain text :: .separator :: words =>
      if progress.input.isSome then { progress with extra := true }.read words
      else { progress with input := some text }.read words
  | .plain text :: words =>
      if progress.input.isSome then { progress with extra := true }.read words
      else { progress with input := some text }.read words
  | .separator :: words =>
      if progress.input.isNone && startsPlain words then progress.read words
      else { progress with extra := true }.read words
  | .unknown :: words => { progress with extra := true }.read words
  | .helpWith letters :: words => .error (helpUsage (startsPlain words) letters)
  | .flag .help none :: _ => .error .help
  | .flag .compact none :: words => { progress with compact := true }.read words
  | .flag .verbose none :: words => { progress with verbose := true }.read words
  | .flag .output (some value) :: words => { progress with output := some value }.read words
  | .flag .config (some value) :: words => { progress with config := some value }.read words
  | .flag .output none :: .plain value :: words =>
      { progress with output := some value }.read words
  | .flag .config none :: .plain value :: words =>
      { progress with config := some value }.read words
  | .flag _ _ :: _ => .error .invalid

/-- The arguments that the words of a command line denote. -/
def Arguments.parse (words : List String) : Except Usage Arguments := do
  let progress ← ({} : Progress).read (← readWords words)
  match progress.input with
  | some input =>
      if progress.extra then throw .invalid
      return {
        input
        output := progress.output
        config := progress.config
        compact := progress.compact
        verbose := progress.verbose }
  | none => throw .invalid

end Command
end CardPress
