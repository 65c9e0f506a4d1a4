import CardPress.Command.Arguments
import CardPress.Command.Endpoint
import CardPress.Command.Log

/-!
# Plans

What a command line leads to, as far as it can be told before anything is written: the entries of
the log, and either the card that is to be delivered or the reason why there is none.  A plan
depends on the host, on what stands at three paths and on the standard input, and on nothing else.
-/

namespace CardPress
namespace Command

/-- A text that is to be delivered. -/
structure Delivery where
  sink : Sink
  text : CodeText
  deriving DecidableEq, Repr

/-- What a command line leads to before anything is written. -/
structure Plan where
  log : List Entry
  result : Except Stop Delivery
  deriving Repr

/-- The options that a file asks for, with what is logged while they are read. -/
def configOptions (host : Host) (find : Path → Item) (path : Path) :
    List Entry × Except Stop CardOptions :=
  let loading : Entry := ⟨.debug, "Loading card options from " ++ path.text⟩
  match find path with
  | .missing => ([], .error (.fault (.configMissing path)))
  | .directory => ([loading], .error (.fault (.file .isDirectory)))
  | .file content =>
      match Text.decodeUtf8 content with
      | .error fault => ([loading], .error (.refused fault.message))
      | .ok text =>
          let text := String.ofList (Text.unifyEndings text.toList)
          (loading :: (ignoredNotes host text).map .ofNote,
            (({} : CardOptions).overlayText host text).mapError fun error =>
              .ofConversion (.options error))

/-- A home directory that is not found stops a run, unless the name of the user is refused. -/
def Stop.ofHome : HomeFault → Stop
  | .unknown => .fault (.home .unknown)
  | .nullByte => .refused HomeFault.nullByte.message

namespace Arguments

/-- The paths on which a plan depends. -/
def paths (arguments : Arguments) (host : Host) : List Path :=
  let expanded := (arguments.input :: arguments.config.toList).filterMap fun word =>
    ((Path.parse word).expand host.home?).toOption
  arguments.output.toList.map Path.parse ++ expanded

/-- The options that a command line asks for, with what is logged while they are read. -/
def options (arguments : Arguments) (host : Host) (find : Path → Item) :
    List Entry × Except Stop CardOptions :=
  let (log, options) : List Entry × Except Stop CardOptions :=
    match arguments.config.filter (· != "") with
    | none => ([], .ok {})
    | some word =>
        match (Path.parse word).expand host.home? with
        | .ok path => configOptions host find path
        | .error fault => ([], .error (.ofHome fault))
  (log,
    if arguments.compact then options.map fun options => { options with indent := none }
    else options)

/-- The card of a text as JSON text, with what is logged while the text is converted. -/
def card (arguments : Arguments) (host : Host) (find : Path → Item) (text : String) :
    List Entry × Except Stop CodeText :=
  match arguments.options host find with
  | (log, .error stop) => (log, .error stop)
  | (log, .ok options) =>
      (log ++ (conversionNotes host options text).map .ofNote,
        (convertToJson host options text).mapError .ofConversion)

/-- The plan of a command line. -/
def plan (arguments : Arguments) (host : Host) (find : Path → Item) (standardInput : List UInt8) :
    Plan :=
  let endpoints := do
    let source ← Source.locate host find arguments.input
    return (source, ← Sink.locate find source arguments.output)
  match endpoints with
  | .error fault => { log := [], result := .error (.fault fault) }
  | .ok (source, sink) =>
      let reading : Entry := ⟨.info, "Reading " ++ source.name⟩
      match source.read find standardInput with
      | .error fault => { log := [reading], result := .error (.fault fault) }
      | .ok text =>
          let length : Entry := ⟨.debug, "Markdown length: " ++ toString text.length ++ " chars"⟩
          let converting : Entry := ⟨.info, "Converting markdown..."⟩
          let (log, card) := arguments.card host find text
          { log := reading :: length :: converting :: log
            result := card.map fun json => { sink, text := json ++ .ofString "\n" } }

end Arguments

end Command
end CardPress
