import CardPress.Command.Outcome

/-!
# The program

Reads what a plan depends on and carries the plan out.
-/

namespace CardPress
namespace Command

/-- How the program is called. -/
def usageText : String :=
  "usage: cardpress [-h] [-o OUTPUT] [--config CONFIG] [--compact] [--verbose] input"

/-- The status of a run that a fault has stopped. -/
def faultStatus : UInt32 := 1

/-- What stands at a path. -/
def lookUp (path : Path) : IO Item := do
  match ← (IO.FS.readBinFile path.text).toBaseIO with
  | .ok content => return .file content.toList
  | .error (.inappropriateType _ _ _) => return .directory
  | .error _ => return .missing

/-- The home directories of the users by name. -/
def readHomes : IO (List (String × String)) := do
  let current := (← IO.getEnv "HOME").toList.map fun home => ("", home)
  match ← (IO.FS.lines "/etc/passwd").toBaseIO with
  | .error _ => return current
  | .ok lines =>
      let named := lines.toList.filterMap fun line =>
        match line.splitOn ":" with
        | name :: _ :: _ :: _ :: _ :: home :: _ => some (name, home)
        | _ => none
      return current ++ named

/-- Write a card where it goes to. -/
def deliver (delivery : Delivery) : IO Unit := do
  match delivery.sink, delivery.text.string? with
  | .standardOutput, some text =>
      let output ← IO.getStdout
      output.putStr text
      output.flush
  | .file path, some text =>
      IO.FS.createDirAll path.parent.text
      IO.FS.writeBinFile path.text text.toUTF8
  | _, none => throw (IO.userError Fault.unencodable.message)

/-- Show the entries of a log. -/
def report (verbose : Bool) (log : List Entry) : IO Unit := do
  for entry in log do
    if entry.isShown verbose then IO.eprintln entry.text

/-- Carry out a plan. -/
def carryOut (verbose : Bool) (plan : Plan) : IO UInt32 := do
  report verbose plan.log
  match plan.result with
  | .ok delivery =>
      deliver delivery
      report verbose [delivery.sink.closing]
      return 0
  | .error stop =>
      report verbose stop.closing
      match stop.status with
      | .ok status => return status.toUInt32
      | .error fault =>
          IO.eprintln fault.message
          return faultStatus

/-- Do what a command line asks for. -/
def execute (words : List String) : IO UInt32 := do
  match Arguments.parse words with
  | .error .help =>
      IO.println usageText
      return Usage.help.status.toUInt32
  | .error .invalid =>
      IO.eprintln usageText
      return Usage.invalid.status.toUInt32
  | .ok arguments =>
      let homes ← readHomes
      let host : Host := { Host.plain with home? := fun user => homes.lookup user }
      let items ← (arguments.paths host).mapM fun path => return (path, ← lookUp path)
      let find (path : Path) : Item := (items.lookup path).getD .missing
      let isStream := Source.locate host find arguments.input matches .ok .standardInput
      let standardInput ←
        if isStream then (← IO.getStdin).readBinToEnd else pure ByteArray.empty
      carryOut arguments.verbose (arguments.plan host find standardInput.toList)

end Command
end CardPress

/-- Convert the text that the command line names. -/
def main (words : List String) : IO UInt32 :=
  CardPress.Command.execute words
