import CardPress.Command.FileTree
import CardPress.Convert
import CardPress.Text.Utf8

/-!
# Faults

Why a run does not deliver a card.  A conversion that is refused with a report ends the run in an
orderly way; everything else is a fault of the run itself.
-/

namespace CardPress
namespace Command

/-- Why a run stops without a status. -/
inductive Fault where
  | home (fault : HomeFault)
  | inputMissing (path : Path)
  | configMissing (path : Path)
  /-- A path without a name has no extension that could be changed. -/
  | emptyName (path : Path)
  | file (fault : FileFault)
  /-- The input is not UTF-8. -/
  | encoding (fault : Text.Utf8Fault)
  | conversion (error : ConversionError)
  /-- The text of the card has no bytes. -/
  | unencodable
  deriving Repr

/-- The description of why a file cannot be read or written. -/
def FileFault.message : FileFault → String
  | isDirectory => "Is a directory"
  | isFile => "File exists"
  | notDirectory => "Not a directory"
  | missing => "No such file or directory"
  | nullByte => "embedded null byte"

/-- The report of a fault. -/
def Fault.message : Fault → String
  | home fault => fault.message
  | inputMissing path => "Input file not found: " ++ path.text
  | configMissing path => "Config file not found: " ++ path.text
  | emptyName path => path.display ++ " has an empty name"
  | file fault => fault.message
  | encoding fault => fault.message
  | conversion error => error.message?.getD "The text cannot be converted"
  | unencodable => "The card has a half of a surrogate pair that stands alone"

/-- Why there is no card to be delivered. -/
inductive Stop where
  /-- The conversion is refused with a report. -/
  | refused (message : String)
  | fault (fault : Fault)
  deriving Repr

/-- A text that cannot be converted is refused, if there is a report for it. -/
def Stop.ofConversion (error : ConversionError) : Stop :=
  match error.message? with
  | some message => .refused message
  | none => .fault (.conversion error)

end Command
end CardPress
