import CardPress.Text.Quoted

/-!
# Paths

A path is the list of its components; empty ones and single dots do not count.  The extension of a
name starts at its last dot, unless that is the first or the last character.  A tilde at the start
of a relative path stands for a home directory, where a path is expanded at all.
-/

namespace CardPress
namespace Command

/-- A path to a file or a directory. -/
structure Path where
  /-- The slashes of an absolute path. -/
  root : String
  parts : List String
  deriving DecidableEq, Repr, Inhabited

/-- Why a home directory is not found. -/
inductive HomeFault where
  /-- The host knows none, or it starts with a tilde itself. -/
  | unknown
  /-- The name of the user has a null character. -/
  | nullByte
  deriving DecidableEq, Repr

/-- The report of a home directory that is not found. -/
def HomeFault.message : HomeFault → String
  | unknown => "Could not determine home directory."
  | nullByte => "embedded null byte"

namespace Path

/-- The path that a text denotes; exactly two slashes in front are kept. -/
def parse (text : String) : Path :=
  let chars := text.toList
  let slashes := (chars.takeWhile (· = '/')).length
  { root := if slashes = 0 then "" else if slashes = 2 then "//" else "/"
    parts :=
      ((List.splitOn '/' chars).map String.ofList).filter fun part => part != "" && part != "." }

/-- A path as text. -/
def text (path : Path) : String :=
  if path.root = "" && path.parts.isEmpty then "."
  else path.root ++ "/".intercalate path.parts

/-- The last component. -/
def name (path : Path) : String :=
  path.parts.getLast?.getD ""

/-- A name without its extension. -/
def stemOf (name : String) : String :=
  let chars := name.toList
  let suffix := (chars.reverse.takeWhile (· != '.')).length
  let stem := chars.take (chars.length - suffix - 1)
  if suffix = 0 || stem.isEmpty then name else String.ofList stem

/-- The last component without its extension. -/
def stem (path : Path) : String :=
  stemOf path.name

/-- The path with another last component. -/
def withName (path : Path) (name : String) : Path :=
  { path with parts := path.parts.dropLast ++ [name] }

/-- The path with another extension; a path without a name has none. -/
def withSuffix? (path : Path) (suffix : String) : Option Path :=
  if path.name = "" then none else some (path.withName (path.stem ++ suffix))

/-- A path inside a directory. -/
def inside (path : Path) (name : String) : Path :=
  { path with parts := path.parts ++ [name] }

/-- The directory that holds a path. -/
def parent (path : Path) : Path :=
  { path with parts := path.parts.dropLast }

/-- The path that a home directory is written as; slashes at its end do not count. -/
def ofHome? (text : String) : Option Path :=
  let chars := (text.toList.reverse.dropWhile (· = '/')).reverse
  if chars.head? = some '~' then none
  else some (if chars.isEmpty then { root := "/", parts := [] } else parse (String.ofList chars))

/-- A path with the home directory in place of a tilde and the name of a user. -/
def expand (home? : String → Option String) (path : Path) : Except HomeFault Path :=
  match path.root, path.parts.map String.toList with
  | "", ('~' :: user) :: _ =>
      if user.contains '\x00' then .error .nullByte
      else
        match (home? (String.ofList user)).bind ofHome? with
        | some home => .ok { home with parts := home.parts ++ path.parts.tail }
        | none => .error .unknown
  | _, _ => .ok path

/-- A path as it is shown in reports. -/
def display (path : Path) : String :=
  "PosixPath(" ++ Text.quoted path.text ++ ")"

end Path

end Command
end CardPress
