import CardPress.Convert

/-!
# The log

The entries of the log, and which of them are shown.
-/

namespace CardPress
namespace Command

/-- How much an entry of the log matters. -/
inductive Level where
  | debug
  | info
  | error
  deriving DecidableEq, Repr

/-- The name of a level. -/
def Level.name : Level → String
  | debug => "DEBUG"
  | info => "INFO"
  | error => "ERROR"

/-- An entry of the log. -/
structure Entry where
  level : Level
  message : String
  deriving DecidableEq, Repr

namespace Entry

/-- An entry as text. -/
def text (entry : Entry) : String :=
  entry.level.name ++ " " ++ entry.message

/-- Whether an entry is shown; the finest ones are shown on demand only. -/
def isShown (verbose : Bool) (entry : Entry) : Bool :=
  verbose || entry.level != .debug

/-- The entry for something that happens while a text is converted. -/
def ofNote (note : Note) : Entry :=
  { level := .debug
    message :=
      match note with
      | .parsed blocks => "Parsed " ++ toString blocks ++ " block nodes"
      | .ignored key => "Ignoring unknown card option " ++ key.display
      | .rendering blocks => "Rendering " ++ toString blocks ++ " block nodes" }

end Entry

end Command
end CardPress
