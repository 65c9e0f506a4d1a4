import CardPress.Yaml.Failure

/-!
# Reading positions

A cursor stands in front of the unread part of a text and counts the line and the column it has
come to.  The classes of characters that end a line, a word or a token are defined with it.
-/

namespace CardPress
namespace Yaml

/-- Characters that end a line. -/
def isBreak (c : Char) : Bool :=
  c = '\n' || c = '\r' || c = '\x85' || c = '\u2028' || c = '\u2029'

/-- Characters that a text may hold at all. -/
def isAllowed (c : Char) : Bool :=
  let code := c.toNat
  code == 9 || code == 10 || code == 13 || (0x20 ≤ code && code ≤ 0x7E) || code == 0x85 ||
    (0xA0 ≤ code && code ≤ 0xD7FF) || (0xE000 ≤ code && code ≤ 0xFFFD) || 0x10000 ≤ code

/-- The end of the text or of a line. -/
def endsLine : Option Char → Bool
  | none => true
  | some c => isBreak c

/-- The end of the text or of a line, or a space. -/
def endsWord : Option Char → Bool
  | none => true
  | some c => c = ' ' || isBreak c

/-- The end of the text or of a line, a space or a tab. -/
def endsToken : Option Char → Bool
  | none => true
  | some c => c = ' ' || c = '\t' || isBreak c

/-- The letters, digits and signs that names are made of. -/
def isNameChar (c : Char) : Bool :=
  c.isAlphanum || c = '-' || c = '_'

/-- A position in a text. -/
structure Cursor where
  /-- The unread part of the text. -/
  rest : List Char
  /-- Number of characters that have been read. -/
  index : Nat
  /-- Number of lines that have been read. -/
  line : Nat
  /-- Number of characters since the start of the line; a byte order mark does not count. -/
  column : Nat
  deriving Repr, Inhabited

namespace Cursor

/-- The position at the start of a text. -/
def start (chars : List Char) : Cursor :=
  { rest := chars
    index := 0
    line := 0
    column := 0 }

/-- The next character. -/
def peek (cursor : Cursor) : Option Char :=
  cursor.rest.head?

/-- The character at a distance. -/
def peekAt (cursor : Cursor) (distance : Nat) : Option Char :=
  cursor.rest[distance]?

/-- Whether the next character is a given one. -/
def sees (cursor : Cursor) (c : Char) : Bool :=
  cursor.rest.head? == some c

/-- Read one character; a carriage return in front of a line feed does not end the line. -/
def next (cursor : Cursor) : Cursor :=
  match cursor.rest with
  | [] => cursor
  | c :: rest =>
      let ends := isBreak c && !(c = '\r' && rest.head? == some '\n')
      { rest
        index := cursor.index + 1
        line := if ends then cursor.line + 1 else cursor.line
        column :=
          if ends then 0
          else if c = '\uFEFF' then cursor.column
          else cursor.column + 1 }

/-- Read a number of characters. -/
def forward : Nat → Cursor → Cursor
  | 0, cursor => cursor
  | count + 1, cursor => forward count cursor.next

/-- Read the longest run of characters of a class. -/
def span (test : Char → Bool) (cursor : Cursor) : List Char × Cursor :=
  let taken := cursor.rest.takeWhile test
  (taken, cursor.forward taken.length)

/-- Skip the longest run of characters of a class. -/
def skip (test : Char → Bool) (cursor : Cursor) : Cursor :=
  (cursor.span test).2

/-- Skip spaces. -/
def skipSpaces (cursor : Cursor) : Cursor :=
  cursor.skip (· = ' ')

/-- Skip a comment up to the end of its line, when there is one. -/
def skipComment (cursor : Cursor) : Cursor :=
  if cursor.sees '#' then cursor.skip (fun c => !isBreak c) else cursor

/-- Read one line ending, which is kept only when it is a line or paragraph separator. -/
def lineBreak (cursor : Cursor) : Option Char × Cursor :=
  match cursor.rest with
  | '\r' :: '\n' :: _ => (some '\n', cursor.forward 2)
  | c :: _ =>
      if c = '\u2028' ∨ c = '\u2029' then (some c, cursor.next)
      else if isBreak c then (some '\n', cursor.next)
      else (none, cursor)
  | [] => (none, cursor)

/-- Whether three given characters stand at the cursor as a token of their own. -/
def atMark (mark : List Char) (cursor : Cursor) : Bool :=
  cursor.rest.take 3 == mark && endsToken (cursor.peekAt 3)

/-- Whether a document marker stands at the cursor. -/
def atDocumentMark (cursor : Cursor) : Bool :=
  cursor.atMark ['-', '-', '-'] || cursor.atMark ['.', '.', '.']

end Cursor
end Yaml
end CardPress
