import CardPress.Decimal.Reader
import CardPress.Yaml.Cursor

/-!
# Scalars

The text of plain, quoted and block scalars.  A single line break inside a scalar becomes a space
and further ones are kept; block scalars have their own rules for the breaks and for the indent.
The fuel of the loops bounds the number of lines or escapes, and the length of the rest suffices.
-/

namespace CardPress
namespace Yaml

/-- What one line break and the blank lines after it stand for in a folded text. -/
def fold (first : Option Char) (blank : List Char) : List Char :=
  match first with
  | some c =>
      if c = '\n' then (if blank.isEmpty then [' '] else blank) else c :: blank
  | none => blank

/-! ## Quoted scalars -/

/-- The characters that one letter after a backslash stands for. -/
def escapes : List (Char × Char) :=
  [('0', '\x00'), ('a', '\x07'), ('b', '\x08'), ('t', '\t'), ('\t', '\t'), ('n', '\n'),
    ('v', '\x0b'), ('f', '\x0c'), ('r', '\r'), ('e', '\x1b'), (' ', ' '), ('"', '"'),
    ('\\', '\\'), ('/', '/'), ('N', '\x85'), ('_', '\xa0'), ('L', '\u2028'), ('P', '\u2029')]

/-- The number of hexadecimal digits after a letter that starts a numbered escape. -/
def escapeLength? (c : Char) : Option Nat :=
  if c = 'x' then some 2
  else if c = 'u' then some 4
  else if c = 'U' then some 8
  else none

/-- Whether a character is an ASCII hexadecimal digit. -/
def isHex (c : Char) : Bool :=
  c.isDigit || ('a' ≤ c && c ≤ 'f') || ('A' ≤ c && c ≤ 'F')

/-- The code point whose number is written in hexadecimal digits. -/
def codePoint (digits : List Char) : Except Failure CodePoint :=
  let code := (Decimal.natural? 16 digits).getD 0
  if code ≤ 0x10FFFF then .ok (.ofNat code)
  else .error (.codePoint (0x7FFFFFFF < code))

/-- The line breaks after the first one in a quoted scalar; a document marker may not follow. -/
def quotedBreaks : Nat → Cursor → Except Failure (List Char × Cursor)
  | 0, _ => .error .malformed
  | fuel + 1, cursor =>
      if cursor.atDocumentMark then .error .malformed
      else
        let cursor := cursor.skip fun c => c = ' ' || c = '\t'
        match cursor.lineBreak with
        | (some c, after) => do
            let (blank, cursor) ← quotedBreaks fuel after
            return (c :: blank, cursor)
        | (none, cursor) => .ok ([], cursor)

/-- Spaces and line breaks between the words of a quoted scalar. -/
def quotedSpaces (cursor : Cursor) : Except Failure (List Char × Cursor) :=
  let (spaces, cursor) := cursor.span fun c => c = ' ' || c = '\t'
  match cursor.peek with
  | none => .error .malformed
  | some _ =>
      match cursor.lineBreak with
      | (some c, after) => do
          let (blank, cursor) ← quotedBreaks (after.rest.length + 1) after
          return (fold (some c) blank, cursor)
      | (none, cursor) => .ok (spaces, cursor)

/-- Characters of a quoted scalar that never end a word. -/
def isQuotedPlain (c : Char) : Bool :=
  !(c = '\'' || c = '"' || c = '\\' || c = ' ' || c = '\t' || isBreak c)

/-- One word of a quoted scalar, with its escapes read. -/
def quotedWord (double : Bool) : Nat → Cursor → Except Failure (List CodePoint × Cursor)
  | 0, _ => .error .malformed
  | fuel + 1, cursor => do
      let (chars, cursor) := cursor.span isQuotedPlain
      let front := chars.map CodePoint.char
      match cursor.peek with
      | some '\'' =>
          if double then
            let (back, cursor) ← quotedWord double fuel cursor.next
            return (front ++ .char '\'' :: back, cursor)
          else if cursor.peekAt 1 = some '\'' then
            let (back, cursor) ← quotedWord double fuel (cursor.forward 2)
            return (front ++ .char '\'' :: back, cursor)
          else
            return (front, cursor)
      | some '"' =>
          if double then return (front, cursor)
          else
            let (back, cursor) ← quotedWord double fuel cursor.next
            return (front ++ .char '"' :: back, cursor)
      | some '\\' =>
          if double then
            let cursor := cursor.next
            match cursor.peek with
            | none => throw .malformed
            | some letter =>
                match escapes.lookup letter with
                | some c =>
                    let (back, cursor) ← quotedWord double fuel cursor.next
                    return (front ++ .char c :: back, cursor)
                | none =>
                    match escapeLength? letter with
                    | some length =>
                        let cursor := cursor.next
                        let digits := cursor.rest.take length
                        if digits.length = length ∧ digits.all isHex then
                          let point ← codePoint digits
                          let (back, cursor) ← quotedWord double fuel (cursor.forward length)
                          return (front ++ point :: back, cursor)
                        else
                          throw .malformed
                    | none =>
                        match cursor.lineBreak with
                        | (some _, after) =>
                            let (blank, cursor) ← quotedBreaks (after.rest.length + 1) after
                            let (back, cursor) ← quotedWord double fuel cursor
                            return (front ++ blank.map CodePoint.char ++ back, cursor)
                        | (none, _) => throw .malformed
          else
            let (back, cursor) ← quotedWord double fuel cursor.next
            return (front ++ .char '\\' :: back, cursor)
      | _ => return (front, cursor)

/-- The words of a quoted scalar up to its closing quote. -/
def quotedRest (double : Bool) : Nat → Cursor → Except Failure (List CodePoint × Cursor)
  | 0, _ => .error .malformed
  | fuel + 1, cursor =>
      if cursor.sees (if double then '"' else '\'') then .ok ([], cursor.next)
      else do
        let (spaces, cursor) ← quotedSpaces cursor
        let (word, cursor) ← quotedWord double (cursor.rest.length + 1) cursor
        let (back, cursor) ← quotedRest double fuel cursor
        return (spaces.map CodePoint.char ++ word ++ back, cursor)

/-- A quoted scalar, from its opening quote on. -/
def quotedScalar (double : Bool) (cursor : Cursor) : Except Failure (List CodePoint × Cursor) := do
  let cursor := cursor.next
  let (word, cursor) ← quotedWord double (cursor.rest.length + 1) cursor
  let (back, cursor) ← quotedRest double (cursor.rest.length + 1) cursor
  return (word ++ back, cursor)

/-! ## Plain scalars -/

/-- The length of the word of a plain scalar at the front of a text. -/
def plainLength (flow : Bool) : List Char → Nat
  | [] => 0
  | c :: rest =>
      let followed :=
        match rest.head? with
        | some d => flow && (d = ',' || d = '[' || d = ']' || d = '\x7b' || d = '\x7d')
        | none => false
      if endsToken (some c) || (c = ':' && (endsToken rest.head? || followed)) ||
          (flow && (c = ',' || c = '?' || c = '[' || c = ']' || c = '\x7b' || c = '\x7d')) then
        0
      else
        plainLength flow rest + 1

/-- The blank lines after a line break in a plain scalar; a document marker gives `none`. -/
def plainBreaks : Nat → Cursor → Option (List Char) × Cursor
  | 0, cursor => (some [], cursor)
  | fuel + 1, cursor =>
      let cursor := cursor.skipSpaces
      match cursor.lineBreak with
      | (some c, after) =>
          if after.atDocumentMark then (none, after)
          else
            match plainBreaks fuel after with
            | (some blank, cursor) => (some (c :: blank), cursor)
            | (none, cursor) => (none, cursor)
      | (none, cursor) => (some [], cursor)

/-- What stands between two words of a plain scalar. -/
structure PlainGap where
  /-- The spaces or line breaks as they count in the text; empty when the scalar ends here. -/
  chars : List Char
  /-- Whether a line ended. -/
  broken : Bool
  after : Cursor

/-- The spaces and line breaks after a word of a plain scalar. -/
def plainGap (cursor : Cursor) : PlainGap :=
  let (spaces, cursor) := cursor.span (· = ' ')
  match cursor.lineBreak with
  | (some c, after) =>
      if after.atDocumentMark then
        { chars := []
          broken := true
          after }
      else
        match plainBreaks (after.rest.length + 1) after with
        | (some blank, cursor) =>
            { chars := fold (some c) blank
              broken := true
              after := cursor }
        | (none, cursor) =>
            { chars := []
              broken := true
              after := cursor }
  | (none, cursor) =>
      { chars := spaces
        broken := false
        after := cursor }

/-- A plain scalar that has been read. -/
structure PlainScalar where
  chars : List Char
  /-- Whether the scalar ended at the end of a line. -/
  broken : Bool
  after : Cursor

/-- The words of a plain scalar, where `gap` is what stands in front of the next one. -/
def plainWords (flow : Bool) (indent : Int) : Nat → PlainGap → PlainScalar
  | 0, gap =>
      { chars := []
        broken := gap.broken
        after := gap.after }
  | fuel + 1, gap =>
      let cursor := gap.after
      let length := if cursor.sees '#' then 0 else plainLength flow cursor.rest
      if length = 0 then
        { chars := []
          broken := gap.broken
          after := cursor }
      else
        let word := cursor.rest.take length
        let next := plainGap (cursor.forward length)
        if next.chars.isEmpty || next.after.sees '#' ||
            (!flow && (next.after.column : Int) < indent) then
          { chars := gap.chars ++ word
            broken := next.broken
            after := next.after }
        else
          let back := plainWords flow indent fuel next
          { back with chars := gap.chars ++ word ++ back.chars }

/-- A plain scalar in a collection with a given indent. -/
def plainScalar (flow : Bool) (indent : Int) (cursor : Cursor) : PlainScalar :=
  plainWords flow (indent + 1) (cursor.rest.length + 1)
    { chars := []
      broken := false
      after := cursor }

/-! ## Block scalars -/

/-- What happens to the line breaks at the end of a block scalar. -/
inductive Chomping where
  | strip
  | clip
  | keep
  deriving DecidableEq, Repr

/-- The sign that sets the chomping. -/
def chompingOf? : Option Char → Option Chomping
  | some '+' => some .keep
  | some '-' => some .strip
  | _ => none

/-- A digit that sets the indent; zero is refused. -/
def incrementOf? (cursor : Cursor) : Except Failure (Option Nat × Cursor) :=
  match cursor.peek with
  | some c =>
      if c.isDigit then
        if c = '0' then .error .malformed else .ok (some (c.toNat - 48), cursor.next)
      else
        .ok (none, cursor)
  | none => .ok (none, cursor)

/-- The header of a block scalar: its chomping, its indent, and the rest of the line. -/
def blockHeader (cursor : Cursor) : Except Failure (Chomping × Option Nat × Cursor) := do
  let (chomping, increment, cursor) ←
    match chompingOf? cursor.peek with
    | some chomping => do
        let (increment, cursor) ← incrementOf? cursor.next
        pure (chomping, increment, cursor)
    | none => do
        let (increment, cursor) ← incrementOf? cursor
        match increment, chompingOf? cursor.peek with
        | some _, some chomping => pure (chomping, increment, cursor.next)
        | _, _ => pure (.clip, increment, cursor)
  if !endsWord cursor.peek then throw .malformed
  let cursor := cursor.skipSpaces.skipComment
  if !endsLine cursor.peek then throw .malformed
  return (chomping, increment, cursor.lineBreak.2)

/-- The blank lines in front of a block scalar, and the widest indent among them. -/
def blockIndentation : Nat → Nat → Cursor → List Char × Nat × Cursor
  | 0, widest, cursor => ([], widest, cursor)
  | fuel + 1, widest, cursor =>
      if cursor.sees ' ' then
        let cursor := cursor.next
        blockIndentation fuel (max widest cursor.column) cursor
      else
        match cursor.lineBreak with
        | (some c, after) =>
            let (blank, widest, cursor) := blockIndentation fuel widest after
            (c :: blank, widest, cursor)
        | (none, cursor) => ([], widest, cursor)

/-- Skip spaces up to a column. -/
def skipIndent (indent : Nat) : Nat → Cursor → Cursor
  | 0, cursor => cursor
  | fuel + 1, cursor =>
      if cursor.column < indent ∧ cursor.sees ' ' = true then skipIndent indent fuel cursor.next
      else cursor

/-- The blank lines in front of the next line of a block scalar. -/
def blockBreaks (indent : Nat) : Nat → Cursor → List Char × Cursor
  | 0, cursor => ([], cursor)
  | fuel + 1, cursor =>
      let cursor := skipIndent indent (cursor.rest.length + 1) cursor
      match cursor.lineBreak with
      | (some c, after) =>
          let (blank, cursor) := blockBreaks indent fuel after
          (c :: blank, cursor)
      | (none, cursor) => ([], cursor)

/-- Whether a line of a folded scalar starts with text, so that it joins the one before. -/
def startsWithText (cursor : Cursor) : Bool :=
  !(cursor.sees ' ' || cursor.sees '\t')

/-- The lines of a block scalar, each with the blank lines in front of it. -/
def blockLines (folded : Bool) (chomping : Chomping) (indent : Nat) :
    Nat → List Char → Option Char → Cursor → List Char × Cursor
  | 0, _, _, cursor => ([], cursor)
  | fuel + 1, blank, lastBreak, cursor =>
      let ending :=
        (if chomping = .strip then [] else lastBreak.toList) ++
          (if chomping = .keep then blank else [])
      if cursor.column = indent ∧ cursor.peek ≠ none then
        let leading := startsWithText cursor
        let (line, cursor) := cursor.span fun c => !isBreak c
        let (lineBreak, cursor) := cursor.lineBreak
        let (nextBlank, cursor) := blockBreaks indent (cursor.rest.length + 1) cursor
        if cursor.column = indent ∧ cursor.peek ≠ none then
          let joint :=
            if folded && lineBreak == some '\n' && leading && startsWithText cursor then
              (if nextBlank.isEmpty then [' '] else [])
            else
              lineBreak.toList
          let (back, cursor) := blockLines folded chomping indent fuel nextBlank lineBreak cursor
          (blank ++ line ++ joint ++ back, cursor)
        else
          let ending :=
            (if chomping = .strip then [] else lineBreak.toList) ++
              (if chomping = .keep then nextBlank else [])
          (blank ++ line ++ ending, cursor)
      else
        (ending, cursor)

/-- A block scalar in a collection with a given indent, from its indicator on. -/
def blockScalar (folded : Bool) (indent : Int) (cursor : Cursor) :
    Except Failure (List Char × Cursor) := do
  let (chomping, increment, cursor) ← blockHeader cursor.next
  let least := (max (indent + 1) 1).toNat
  let fuel := cursor.rest.length + 1
  let (blank, width, cursor) :=
    match increment with
    | none =>
        let (blank, widest, cursor) := blockIndentation fuel 0 cursor
        (blank, max least widest, cursor)
    | some increment =>
        let width := least + increment - 1
        let (blank, cursor) := blockBreaks width fuel cursor
        (blank, width, cursor)
  return blockLines folded chomping width fuel blank none cursor

end Yaml
end CardPress
