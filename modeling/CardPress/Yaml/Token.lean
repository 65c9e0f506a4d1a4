import CardPress.Yaml.Scalar

/-!
# YAML tokens

A text is cut into tokens from left to right.  Indentation shows as the starts and ends of block
collections.  That a node is a key is only known at the colon behind it, so the start of every node
that may be a key is remembered, and the mark of the key is put in front of it afterwards.  A token
is given away as soon as no mark can come in front of it any more, so that a text is only read as
far as its tokens are needed.
-/

namespace CardPress
namespace Yaml

/-- A token of a YAML text. -/
inductive Token where
  | version (major minor : Nat)
  | tagHandle (handle replacement : String)
  /-- A directive that is reserved for later versions. -/
  | reserved
  | documentStart
  | documentEnd
  | streamEnd
  | blockSequenceStart
  | blockMappingStart
  | blockEnd
  | flowSequenceStart
  | flowSequenceEnd
  | flowMappingStart
  | flowMappingEnd
  | blockEntry
  | flowEntry
  | key
  | value
  | alias (name : String)
  | anchor (name : String)
  | tag (handle : Option String) (suffix : String)
  | scalar (text : CodeText) (isPlain : Bool)
  /-- The end of what can be read, where the rest of the text is no token. -/
  | unreadable (failure : Failure)
  deriving DecidableEq, Repr, Inhabited

/-- The start of a node that may turn out to be a key. -/
structure KeyStart where
  /-- Number of tokens in front of the node. -/
  position : Nat
  /-- Whether the node has to be a key, because it stands at the indent of its mapping. -/
  required : Bool
  index : Nat
  line : Nat
  column : Nat
  deriving DecidableEq, Repr

/-- The state of cutting a text into tokens. -/
structure Scanner where
  cursor : Cursor
  /-- The tokens so far. -/
  tokens : Array Token
  /-- Number of open brackets; unmatched closing brackets make it negative. -/
  flow : Int
  /-- Indent of the innermost block collection. -/
  indent : Int
  /-- Indents of the collections around it. -/
  indents : List Int
  /-- Whether a key may start here. -/
  keyAllowed : Bool
  /-- The possible key at each bracket level. -/
  keys : List (Int × KeyStart)
  /-- Whether the end of the text has been reached. -/
  finished : Bool

namespace Scanner

/-- Whether the scanner is inside brackets. -/
def inFlow (scanner : Scanner) : Bool :=
  scanner.flow != 0

/-- Append a token. -/
def emit (token : Token) (scanner : Scanner) : Scanner :=
  { scanner with tokens := scanner.tokens.push token }

/-- Move the cursor. -/
def move (cursor : Cursor) (scanner : Scanner) : Scanner :=
  { scanner with cursor }

/-- Say whether a key may start at the next node. -/
def allowKey (allowed : Bool) (scanner : Scanner) : Scanner :=
  { scanner with keyAllowed := allowed }

/-- Forget the possible keys that lie on an earlier line or too far back. -/
def dropStale (scanner : Scanner) : Except Failure Scanner :=
  let stale (key : KeyStart) : Bool :=
    key.line != scanner.cursor.line || scanner.cursor.index - key.index > 1024
  if scanner.keys.any fun (_, key) => stale key && key.required then .error .malformed
  else .ok { scanner with keys := scanner.keys.filter fun (_, key) => !stale key }

/-- Forget the possible key at the current bracket level. -/
def dropKey (scanner : Scanner) : Except Failure Scanner :=
  match scanner.keys.lookup scanner.flow with
  | some key =>
      if key.required then .error .malformed
      else .ok { scanner with keys := scanner.keys.filter fun (level, _) => level != scanner.flow }
  | none => .ok scanner

/-- Remember that a key may start here. -/
def saveKey (scanner : Scanner) : Except Failure Scanner :=
  if scanner.keyAllowed then do
    let cursor := scanner.cursor
    let key : KeyStart :=
      { position := scanner.tokens.size
        required := !scanner.inFlow && scanner.indent == cursor.column
        index := cursor.index
        line := cursor.line
        column := cursor.column }
    let scanner ← scanner.dropKey
    return { scanner with keys := (scanner.flow, key) :: scanner.keys }
  else
    .ok scanner

/-- Close the block collections that are indented further than a column. -/
def closeBlocks (column : Int) : List Int → Scanner → Scanner
  | [], scanner => scanner
  | outer :: outers, scanner =>
      if column < scanner.indent then
        closeBlocks column outers
          (emit .blockEnd { scanner with indent := outer, indents := outers })
      else
        scanner

/-- Close the block collections that end at a column; inside brackets the indent means nothing. -/
def unwind (column : Int) (scanner : Scanner) : Scanner :=
  if scanner.inFlow then scanner else closeBlocks column scanner.indents scanner

/-- Make a column the indent of a new block collection, when it is further in. -/
def pushIndent? (column : Int) (scanner : Scanner) : Option Scanner :=
  if scanner.indent < column then
    some { scanner with indent := column, indents := scanner.indent :: scanner.indents }
  else
    none

/-- Open a block collection at a column, unless it is open already. -/
def openBlock (token : Token) (column : Int) (scanner : Scanner) : Scanner :=
  match scanner.pushIndent? column with
  | some scanner => scanner.emit token
  | none => scanner

/-- Skip blanks, comments and line ends in front of a token. -/
def skipToToken : Nat → Scanner → Scanner
  | 0, scanner => scanner
  | fuel + 1, scanner =>
      let cursor := scanner.cursor.skipSpaces.skipComment
      match cursor.lineBreak with
      | (some _, after) =>
          skipToToken fuel
            { scanner with
              cursor := after
              keyAllowed := scanner.keyAllowed || !scanner.inFlow }
      | (none, cursor) => { scanner with cursor }

/-! ## Directives, names and tags -/

/-- Decimal digits at the cursor as a number; there must be at least one, and not too many. -/
def digits (cursor : Cursor) : Except Failure (Nat × Cursor) :=
  match cursor.span Char.isDigit with
  | ([], _) => .error .malformed
  | (found, cursor) =>
      if digitLimit < found.length then .error (.tooManyDigits found.length)
      else .ok ((Decimal.natural? 10 found).getD 0, cursor)

/-- A name at the cursor; it must have at least one character. -/
def name (cursor : Cursor) : Except Failure (List Char × Cursor) :=
  match cursor.span isNameChar with
  | ([], _) => .error .malformed
  | found => .ok found

/-- A tag handle: an exclamation mark alone, or a name between two of them. -/
def handle (cursor : Cursor) : Except Failure (String × Cursor) :=
  if !cursor.sees '!' then .error .malformed
  else if cursor.peekAt 1 = some ' ' then .ok ("!", cursor.next)
  else
    let (found, after) := cursor.next.span isNameChar
    if after.sees '!' then .ok (String.ofList ('!' :: found ++ ['!']), after.next)
    else .error .malformed

/-- Characters that a tag may be made of. -/
def isTagChar (c : Char) : Bool :=
  c.isAlphanum || "-;/?:@&=+$,_.!~*'()[]".toList.contains c

/-- The bytes of a run of percent escapes. -/
def percentBytes : Nat → Cursor → Except Failure (List UInt8 × Cursor)
  | 0, cursor => .ok ([], cursor)
  | fuel + 1, cursor =>
      if cursor.sees '%' then
        let pair := (cursor.rest.drop 1).take 2
        if pair.length = 2 ∧ pair.all isHex then do
          let (bytes, cursor) ← percentBytes fuel (cursor.forward 3)
          return (UInt8.ofNat ((Decimal.natural? 16 pair).getD 0) :: bytes, cursor)
        else
          .error .malformed
      else
        .ok ([], cursor)

/-- The characters of a tag, with percent escapes read as UTF-8. -/
def tagChars : Nat → Cursor → Except Failure (List Char × Cursor)
  | 0, cursor => .ok ([], cursor)
  | fuel + 1, cursor => do
      let (front, cursor) := cursor.span isTagChar
      if cursor.sees '%' then
        let (bytes, cursor) ← percentBytes (cursor.rest.length + 1) cursor
        match String.fromUTF8? ⟨bytes.toArray⟩ with
        | none => throw .malformed
        | some text =>
            let (back, cursor) ← tagChars fuel cursor
            return (front ++ text.toList ++ back, cursor)
      else
        return (front, cursor)

/-- The text of a tag; it must have at least one character. -/
def tagText (cursor : Cursor) : Except Failure (String × Cursor) := do
  let (found, after) ← tagChars (cursor.rest.length + 1) cursor
  if found.isEmpty ∧ !cursor.sees '%' then throw .malformed
  return (String.ofList found, after)

/-- A directive, up to the end of its line. -/
def directive (cursor : Cursor) : Except Failure (Token × Cursor) := do
  let (found, cursor) ← name cursor.next
  if !endsWord cursor.peek then throw .malformed
  let (token, cursor) ←
    if found = "YAML".toList then do
      let (major, cursor) ← digits cursor.skipSpaces
      if !cursor.sees '.' then throw .malformed
      let (minor, cursor) ← digits cursor.next
      if !endsWord cursor.peek then throw .malformed
      pure (Token.version major minor, cursor)
    else if found = "TAG".toList then do
      let (handle, cursor) ← handle cursor.skipSpaces
      if !cursor.sees ' ' then throw .malformed
      let (replacement, cursor) ← tagText cursor.skipSpaces
      if !endsWord cursor.peek then throw .malformed
      pure (Token.tagHandle handle replacement, cursor)
    else
      pure (Token.reserved, cursor.skip fun c => !isBreak c)
  let cursor := cursor.skipSpaces.skipComment
  if !endsLine cursor.peek then throw .malformed
  return (token, cursor.lineBreak.2)

/-- The name of an anchor or an alias, from its indicator on. -/
def anchorName (cursor : Cursor) : Except Failure (String × Cursor) := do
  let (found, cursor) ← name cursor.next
  let ended :=
    endsToken cursor.peek ||
      (cursor.peek.any fun c => "?:,]\x7d%@\x60".toList.contains c)
  if !ended then throw .malformed
  return (String.ofList found, cursor)

/-- Whether a second exclamation mark follows in the same word. -/
def hasSecondMark (chars : List Char) : Bool :=
  (chars.takeWhile fun c => !endsWord (some c)).contains '!'

/-- A tag, from its exclamation mark on. -/
def tagToken (cursor : Cursor) : Except Failure (Token × Cursor) := do
  let (token, cursor) ←
    if cursor.peekAt 1 = some '<' then do
      let (suffix, cursor) ← tagText (cursor.forward 2)
      if !cursor.sees '>' then throw .malformed
      pure (Token.tag none suffix, cursor.next)
    else if endsToken (cursor.peekAt 1) then
      pure (Token.tag none "!", cursor.next)
    else do
      let (handle, cursor) ←
        if hasSecondMark (cursor.rest.drop 1) then handle cursor else pure ("!", cursor.next)
      let (suffix, cursor) ← tagText cursor
      pure (Token.tag (some handle) suffix, cursor)
  if !endsWord cursor.peek then throw .malformed
  return (token, cursor)

/-! ## Tokens -/

/-- Close everything that is open, as at the end of a document. -/
def closeDocument (scanner : Scanner) : Except Failure Scanner := do
  let scanner ← (scanner.unwind (-1)).dropKey
  return scanner.allowKey false

/-- An opening bracket, which may start a key and allows one behind it. -/
def openFlow (token : Token) (scanner : Scanner) : Except Failure Scanner := do
  let scanner ← scanner.saveKey
  return emit token
    { scanner with
      flow := scanner.flow + 1
      keyAllowed := true
      cursor := scanner.cursor.next }

/-- A closing bracket. -/
def closeFlow (token : Token) (scanner : Scanner) : Except Failure Scanner := do
  let scanner ← scanner.dropKey
  return emit token
    { scanner with
      flow := scanner.flow - 1
      keyAllowed := false
      cursor := scanner.cursor.next }

/-- A comma. -/
def flowEntry (scanner : Scanner) : Except Failure Scanner := do
  let scanner ← (scanner.allowKey true).dropKey
  return (scanner.move scanner.cursor.next).emit .flowEntry

/-- Open a block collection at the cursor, where one may start. -/
def enterBlock (token : Token) (scanner : Scanner) : Except Failure Scanner :=
  if scanner.inFlow then .ok scanner
  else if scanner.keyAllowed then .ok (scanner.openBlock token scanner.cursor.column)
  else .error .malformed

/-- The dash of a sequence entry. -/
def blockEntry (scanner : Scanner) : Except Failure Scanner := do
  let scanner ← scanner.enterBlock .blockSequenceStart
  let scanner ← (scanner.allowKey true).dropKey
  return (scanner.move scanner.cursor.next).emit .blockEntry

/-- The question mark of a key. -/
def keyMark (scanner : Scanner) : Except Failure Scanner := do
  let scanner ← scanner.enterBlock .blockMappingStart
  let scanner ← (scanner.allowKey !scanner.inFlow).dropKey
  return (scanner.move scanner.cursor.next).emit .key

/-- Mark the node that starts at a possible key as a key. -/
def resolveKey (key : KeyStart) (scanner : Scanner) : Scanner :=
  let front := scanner.tokens.toList.take key.position
  let back := scanner.tokens.toList.drop key.position
  let opened := if scanner.inFlow then none else scanner.pushIndent? key.column
  let marks :=
    match opened with
    | some _ => [Token.blockMappingStart, .key]
    | none => [.key]
  let scanner := opened.getD scanner
  { scanner with
    tokens := (front ++ marks ++ back).toArray
    keyAllowed := false
    keys := scanner.keys.filter fun (level, _) => level != scanner.flow }

/-- The colon of a value. -/
def valueMark (scanner : Scanner) : Except Failure Scanner := do
  let scanner ←
    match scanner.keys.lookup scanner.flow with
    | some key => pure (scanner.resolveKey key)
    | none => do
        let scanner ← scanner.enterBlock .blockMappingStart
        (scanner.allowKey !scanner.inFlow).dropKey
  return (scanner.move scanner.cursor.next).emit .value

/-- A node that may be a key, read by a function of the cursor. -/
def node (read : Cursor → Except Failure (Token × Cursor)) (scanner : Scanner) :
    Except Failure Scanner := do
  let scanner ← scanner.saveKey
  let (token, cursor) ← read scanner.cursor
  return ((scanner.allowKey false).move cursor).emit token

/-- A block scalar. -/
def blockText (folded : Bool) (scanner : Scanner) : Except Failure Scanner := do
  let scanner ← (scanner.allowKey true).dropKey
  let (chars, cursor) ← blockScalar folded scanner.indent scanner.cursor
  return (scanner.move cursor).emit (.scalar (String.ofList chars) false)

/-- A plain scalar; a key may follow when it ended with its line. -/
def plainText (scanner : Scanner) : Except Failure Scanner := do
  let scanner ← scanner.saveKey
  let found := plainScalar scanner.inFlow scanner.indent scanner.cursor
  return ((scanner.allowKey found.broken).move found.after).emit
    (.scalar (String.ofList found.chars) true)

/-- Characters that no plain scalar starts with. -/
def isIndicator (c : Char) : Bool :=
  "-?:,[]\x7b\x7d#&*!|>'\"%@\x60".toList.contains c

/-- Whether a plain scalar starts at the cursor. -/
def startsPlain (scanner : Scanner) (c : Char) : Bool :=
  (!endsToken (some c) && !isIndicator c) ||
    (!endsToken (scanner.cursor.peekAt 1) &&
      (c = '-' || (!scanner.inFlow && (c = '?' || c = ':'))))

/-- Read the token that starts with a given character. -/
def tokenAt (c : Char) (scanner : Scanner) : Except Failure Scanner :=
  let cursor := scanner.cursor
  let inFlow := scanner.inFlow
  let ended := endsToken (cursor.peekAt 1)
  if c = '%' ∧ cursor.column = 0 then do
    let scanner ← scanner.closeDocument
    let (token, cursor) ← directive scanner.cursor
    return (scanner.move cursor).emit token
  else if cursor.column = 0 ∧ cursor.atMark ['-', '-', '-'] then do
    let scanner ← scanner.closeDocument
    return (scanner.move (cursor.forward 3)).emit .documentStart
  else if cursor.column = 0 ∧ cursor.atMark ['.', '.', '.'] then do
    let scanner ← scanner.closeDocument
    return (scanner.move (cursor.forward 3)).emit .documentEnd
  else if c = '[' then scanner.openFlow .flowSequenceStart
  else if c = '\x7b' then scanner.openFlow .flowMappingStart
  else if c = ']' then scanner.closeFlow .flowSequenceEnd
  else if c = '\x7d' then scanner.closeFlow .flowMappingEnd
  else if c = ',' then scanner.flowEntry
  else if c = '-' ∧ ended then scanner.blockEntry
  else if c = '?' ∧ (inFlow || ended) then scanner.keyMark
  else if c = ':' ∧ (inFlow || ended) then scanner.valueMark
  else if c = '*' then
    scanner.node fun cursor => do
      let (name, cursor) ← anchorName cursor
      return (.alias name, cursor)
  else if c = '&' then
    scanner.node fun cursor => do
      let (name, cursor) ← anchorName cursor
      return (.anchor name, cursor)
  else if c = '!' then scanner.node tagToken
  else if c = '|' ∧ !inFlow then scanner.blockText false
  else if c = '>' ∧ !inFlow then scanner.blockText true
  else if c = '\'' ∨ c = '"' then
    scanner.node fun cursor => do
      let (points, cursor) ← quotedScalar (c = '"') cursor
      return (.scalar ⟨points⟩ false, cursor)
  else if scanner.startsPlain c then scanner.plainText
  else .error .malformed

/-- Read on by one token, or to the end of the text. -/
def fetch (scanner : Scanner) : Except Failure Scanner := do
  let scanner := scanner.skipToToken (scanner.cursor.rest.length + 1)
  let scanner ← scanner.dropStale
  let scanner := scanner.unwind scanner.cursor.column
  match scanner.cursor.peek with
  | none =>
      let scanner ← scanner.closeDocument
      return { scanner.emit .streamEnd with finished := true }
  | some c => scanner.tokenAt c

/-- The token with a number, when it is known that no mark will be put in front of it; otherwise
the scanner has to read on. -/
def settled? (number : Nat) (scanner : Scanner) : Except Failure (Option Token × Scanner) :=
  match scanner.tokens[number]? with
  | none => .ok (none, scanner)
  | some token =>
      if scanner.finished then .ok (some token, scanner)
      else do
        let scanner ← scanner.dropStale
        let pending := scanner.keys.any fun (_, key) => key.position == number
        return (if pending then none else some token, scanner)

/-- The tokens from a number on, one after the other; what cannot be read ends them, but not before
it is needed.  The fuel bounds the number of steps. -/
def run : Nat → Nat → Scanner → List Token
  | 0, _, _ => [.unreadable .malformed]
  | fuel + 1, number, scanner =>
      match scanner.settled? number with
      | .error failure => [.unreadable failure]
      | .ok (some token, scanner) =>
          if token = .streamEnd then [token] else token :: run fuel (number + 1) scanner
      | .ok (none, scanner) =>
          match scanner.fetch with
          | .error failure => [.unreadable failure]
          | .ok scanner => run fuel number scanner

end Scanner

/-- The tokens of a text; a byte order mark in front of it is skipped. -/
def Token.scan (text : String) : List Token :=
  let chars := text.toList
  if chars.all isAllowed then
    let cursor := Cursor.start chars
    Scanner.run (8 * chars.length + 16) 0
      { cursor := if cursor.sees '\uFEFF' then cursor.next else cursor
        tokens := #[]
        flow := 0
        indent := -1
        indents := []
        keyAllowed := true
        keys := []
        finished := false }
  else
    [.unreadable .malformed]

end Yaml
end CardPress
