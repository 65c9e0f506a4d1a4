import CardPress.Markdown.Line
import CardPress.Markdown.Target
import CardPress.Markdown.Token
import CardPress.Url.Link

/-!
# Link definitions

A link definition stands at the start of a paragraph: a label, a destination, and a title that may
be missing.  It may go over several lines, and nothing else stands on its last one.
-/

namespace CardPress
namespace Markdown

/-- The length of a label in front of its closing bracket.  A label holds no opening one. -/
def labelLength? : List Char → Option Nat
  | [] => none
  | '\\' :: _ :: rest => (labelLength? rest).map (· + 2)
  | c :: rest =>
      if c = ']' then some 0
      else if c = '[' then none
      else (labelLength? rest).map (· + 1)

/-- Spaces, tabs and line feeds. -/
def isGap (c : Char) : Bool :=
  isSpace c || c = '\n'

/-- A text through its first line feed. -/
def firstLine (chars : List Char) : List Char :=
  let line := chars.takeWhile (· != '\n')
  chars.take (line.length + 1)

/-- Whether only spaces and tabs are left on the line. -/
def endsLine (chars : List Char) : Bool :=
  match chars.dropWhile isSpace with
  | [] => true
  | c :: _ => c = '\n'

/-- The title behind a destination, and its length with the gap in front of it.  Only a title over
several lines may stand without a gap. -/
def titleBehind? (chars : List Char) : Option (List Char × Nat) := do
  let gap := chars.takeWhile isGap
  let behind := chars.drop gap.length
  let (title, length) ← title? behind
  if gap.isEmpty && !(behind.take length).contains '\n' then none
  else return (title, gap.length + length)

/-- The title of a definition and its length with the gap in front of it; both are empty when there
is no title on the line or behind it. -/
def titleEnding? (chars : List Char) : Option (List Char × Nat) :=
  match titleBehind? chars with
  | some (title, length) =>
      if endsLine (chars.drop length) then some (title, length)
      else if !title.isEmpty && endsLine chars then some ([], 0)
      else none
  | none => if endsLine chars then some ([], 0) else none

/-- The definition at the start of a paragraph, and the number of lines in front of its last one.
The destination ends with its line; an escape of the line feed belongs to it. -/
def definition? : List Char → Option (DefinitionInfo × Nat)
  | '[' :: chars => do
      let length ← labelLength? chars
      let label := chars.take length
      let tail := chars.drop (length + 1)
      if tail.head? != some ':' then none
      let gap := tail.tail.takeWhile isGap
      let target := tail.drop (gap.length + 1)
      let line := firstLine target
      let (destination, width) ← destination? line
      let url := Url.normalize destination
      if !Url.isAllowed url then none
      let behind := if width < line.length then target.drop width else []
      let (title, titleWidth) ← titleEnding? behind
      let id := normalizeLabel label
      if id.isEmpty then none
      let read := label ++ gap ++ behind.take titleWidth
      let info : DefinitionInfo :=
        { id := some (String.ofList id)
          label := some (String.ofList label)
          url := some (String.ofList url)
          title := some (String.ofList title) }
      return (info, read.count '\n')
  | _ => none

end Markdown
end CardPress
