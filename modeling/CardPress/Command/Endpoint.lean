import CardPress.Command.Fault
import CardPress.Text.Lines

/-!
# Endpoints

Where the text of a run comes from and where its card goes to.
-/

namespace CardPress
namespace Command

/-- Where a text comes from. -/
inductive Source where
  | standardInput
  | file (path : Path)
  deriving DecidableEq, Repr

/-- Where a card goes to. -/
inductive Sink where
  | standardOutput
  | file (path : Path)
  deriving DecidableEq, Repr

/-- The word that names a standard stream. -/
def streamWord : String := "-"

/-- What a file holds, if it can be read. -/
def Item.content : Item → Except FileFault (List UInt8)
  | missing => .error .missing
  | directory => .error .isDirectory
  | file content => .ok content

namespace Source

/-- The name of a source in the log. -/
def name : Source → String
  | standardInput => "stdin"
  | file path => path.text

/-- The name of the card that a source leads to, without its extension. -/
def stem : Source → String
  | standardInput => "card"
  | file path => path.stem

/-- The source that a text names. -/
def parse (text : String) : Source :=
  if text = streamWord then standardInput else file (Path.parse text)

/-- The source that a word of a command line names; its file has to be there.  The word counts in
its shortest form. -/
def locate (host : Host) (find : Path → Item) (word : String) : Except Fault Source :=
  if word = streamWord then .ok standardInput
  else do
    let path ← ((Path.parse word).expand host.home?).mapError .home
    if find path = .missing then throw (.inputMissing path)
    return parse path.text

/-- The text of a source; the line endings of a file are unified. -/
def read (find : Path → Item) (standardInput : List UInt8) : Source → Except Fault String
  | .standardInput => (Text.decodeUtf8 standardInput).mapError .encoding
  | .file path => do
      let content ← (find path).content.mapError .file
      let text ← (Text.decodeUtf8 content).mapError .encoding
      return String.ofList (Text.unifyEndings text.toList)

end Source

namespace Sink

/-- The name of a sink in the log. -/
def name : Sink → String
  | standardOutput => "stdout"
  | file path => path.text

/-- The sink beside a source. -/
def beside : Source → Except Fault Sink
  | .standardInput => .ok standardOutput
  | .file path =>
      match path.withSuffix? ".json" with
      | some path => .ok (file path)
      | none => .error (.emptyName path)

/-- The sink for the card of a source.  A directory takes a file that is named after the source;
without a request, or with an empty one, the card goes beside the source. -/
def locate (find : Path → Item) (source : Source) (request : Option String) : Except Fault Sink :=
  match request.filter (· != "") with
  | none => beside source
  | some word =>
      if word = streamWord then .ok standardOutput
      else
        let path := Path.parse word
        match find path with
        | .directory => .ok (file (path.inside (source.stem ++ ".json")))
        | _ => .ok (file path)

end Sink

end Command
end CardPress
