import CardPress.Command.Plan

/-!
# Outcomes

What a command line leads to in a tree of files.  All that is written is the text of a delivery, and
it is written once.  A writing that fails may leave directories that it has made on the way.  The
standard streams are in UTF-8, and what is written there arrives.
-/

namespace CardPress
namespace Command

/-- What is left when a run has ended. -/
structure Outcome where
  log : List Entry
  /-- What stands on the standard output. -/
  output : String := ""
  tree : FileTree
  /-- The status of the run, or the fault that stopped it. -/
  status : Except Fault Nat
  deriving Repr

/-- The entries that close the log of a run without a delivery. -/
def Stop.closing : Stop → List Entry
  | refused message => [⟨.error, "Conversion failed: " ++ message⟩]
  | fault _ => []

/-- The status of a run without a delivery. -/
def Stop.status : Stop → Except Fault Nat
  | refused _ => .ok 1
  | fault error => .error error

/-- The entry that closes the log of a run with a delivery. -/
def Sink.closing (sink : Sink) : Entry :=
  ⟨.info, "Done. Saved to " ++ sink.name⟩

/-- What is left in a tree of files when a delivery to a path has been tried.  That a text has no
bytes only shows when its file has been opened. -/
def Delivery.toFile (host : Host) (delivery : Delivery) (path : Path) (tree : FileTree) :
    FileTree × Except Fault Unit :=
  match delivery.text.string? with
  | some text =>
      let change := tree.write path (Text.encodeUtf8 text)
      (change.tree, change.result.mapError .file)
  | none =>
      let change := tree.write path []
      match change.result with
      | .error fault => (change.tree, .error (.file fault))
      | .ok () =>
          (if host.isAtomic then (tree.makeDirectories path.parent).tree else change.tree,
            .error .unencodable)

/-- Carry out a plan in a tree of files. -/
def Plan.perform (plan : Plan) (host : Host) (tree : FileTree) : Outcome :=
  match plan.result with
  | .error stop => { log := plan.log ++ stop.closing, tree, status := stop.status }
  | .ok delivery =>
      let closed := plan.log ++ [delivery.sink.closing]
      match delivery.sink with
      | .standardOutput =>
          match delivery.text.string? with
          | some output => { log := closed, output, tree, status := .ok 0 }
          | none => { log := plan.log, tree, status := .error .unencodable }
      | .file path =>
          match delivery.toFile host path tree with
          | (tree, .ok ()) => { log := closed, tree, status := .ok 0 }
          | (tree, .error fault) => { log := plan.log, tree, status := .error fault }

/-- Run a command line in a tree of files. -/
def Arguments.run (arguments : Arguments) (host : Host) (tree : FileTree)
    (standardInput : List UInt8) : Outcome :=
  (arguments.plan host tree.find standardInput).perform host tree

end Command
end CardPress
