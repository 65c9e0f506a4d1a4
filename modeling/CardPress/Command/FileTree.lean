import CardPress.Command.Path

/-!
# Trees of files

The files and directories of a system.  A path leads to a place: a relative one starts at the
working directory, and every component goes on from a directory that is there.  A change to a tree
may fail part of the way; what it has done until then stays.  Links, permissions, and limits on
names and space are left out.
-/

namespace CardPress
namespace Command

/-- What stands at a path. -/
inductive Item where
  | missing
  | directory
  | file (content : List UInt8)
  deriving DecidableEq, Repr, Inhabited

/-- Why a file cannot be read or written. -/
inductive FileFault where
  /-- A directory stands where a file is expected. -/
  | isDirectory
  /-- A file stands where a directory is to be made. -/
  | isFile
  /-- A file stands where a directory is expected on the way. -/
  | notDirectory
  /-- Nothing stands there. -/
  | missing
  /-- A path with a null character leads nowhere. -/
  | nullByte
  deriving DecidableEq, Repr

/-- A place in a system of files: the components on the way from its root. -/
abbrev Place := List String

/-- The files and directories of a system. -/
structure FileTree where
  items : List (Place × Item) := []
  /-- Where relative paths start. -/
  workingDirectory : Place := []
  deriving Repr, Inhabited

/-- What is left when a tree has been changed, and whether the change has come to its end. -/
structure Change where
  tree : FileTree
  result : Except FileFault Unit := .ok ()
  deriving Repr

/-- Go on with another change, unless this one has failed. -/
def Change.andThen (change : Change) (next : FileTree → Change) : Change :=
  match change.result with
  | .ok () => next change.tree
  | .error _ => change

namespace FileTree

/-- What stands at a place; at the root there is always a directory. -/
def itemAt (tree : FileTree) (place : Place) : Item :=
  if place.isEmpty then .directory else (tree.items.lookup place).getD .missing

/-- The tree with something else at a place. -/
def put (tree : FileTree) (place : Place) (item : Item) : FileTree :=
  { tree with items := (place, item) :: tree.items.filter (·.1 != place) }

/-- Go on from a place with one more component; above the root there is nothing but the root. -/
def step (tree : FileTree) (place : Place) (part : String) : Except FileFault Place :=
  match tree.itemAt place with
  | .missing => .error .missing
  | .file _ => .error .notDirectory
  | .directory => .ok (if part = ".." then place.dropLast else place ++ [part])

/-- Where a path leads. -/
def resolve (tree : FileTree) (path : Path) : Except FileFault Place :=
  if path.parts.any fun part => part.toList.contains '\x00' then .error .nullByte
  else path.parts.foldlM tree.step (if path.root = "" then tree.workingDirectory else [])

/-- What stands at a path. -/
def find (tree : FileTree) (path : Path) : Item :=
  match tree.resolve path with
  | .ok place => tree.itemAt place
  | .error _ => .missing

/-- Make one directory, unless it is there. -/
def makeDirectory (tree : FileTree) (path : Path) : Change :=
  match tree.resolve path with
  | .error fault => { tree, result := .error fault }
  | .ok place =>
      match tree.itemAt place with
      | .missing => { tree := tree.put place .directory }
      | .directory => { tree }
      | .file _ => { tree, result := .error .isFile }

/-- Make the directory whose components are given last one first, with those around it that are
missing. -/
def makeAll (tree : FileTree) (root : String) : List String → Change
  | [] => tree.makeDirectory { root, parts := [] }
  | part :: outer =>
      let path : Path := { root, parts := (part :: outer).reverse }
      match (tree.makeDirectory path).result with
      | .error .missing => (tree.makeAll root outer).andThen fun tree => tree.makeDirectory path
      | _ => tree.makeDirectory path

/-- Make a directory, with those around it that are missing. -/
def makeDirectories (tree : FileTree) (path : Path) : Change :=
  tree.makeAll path.root path.parts.reverse

/-- Put a file into a directory that is there. -/
def store (tree : FileTree) (path : Path) (content : List UInt8) : Change :=
  match tree.resolve path with
  | .error fault => { tree, result := .error fault }
  | .ok place =>
      match tree.itemAt place with
      | .directory => { tree, result := .error .isDirectory }
      | _ => { tree := tree.put place (.file content) }

/-- Write a file, with the directories around it. -/
def write (tree : FileTree) (path : Path) (content : List UInt8) : Change :=
  (tree.makeDirectories path.parent).andThen fun tree => tree.store path content

end FileTree

end Command
end CardPress
