import CardPress.Markdown.Passage

/-!
# Inline tokens

Running text becomes a list of inline tokens.  Elements are written one after the other; characters
without a meaning are held back until the next token, so that a line end still sees the spaces in
front of it.  When all is written, delimiters are paired and neighbouring pieces of text are joined.
-/

namespace CardPress
namespace Markdown

/-- What has been written. -/
structure Writer where
  tokens : Array InlineToken := #[]
  /-- The characters held back, last one first. -/
  pending : List Char := []
  /-- The delimiters of the passage being read. -/
  delimiters : Array Delimiter := #[]
  /-- The delimiters of the links that have been read. -/
  groups : List (Array Delimiter) := []
  deriving Inhabited

namespace Writer

/-- Hold characters back. -/
def hold (writer : Writer) (chars : List Char) : Writer :=
  { writer with pending := chars.reverse ++ writer.pending }

/-- Write the characters held back. -/
def flush (writer : Writer) : Writer :=
  if writer.pending.isEmpty then writer
  else
    { writer with
      tokens := writer.tokens.push (plainToken "text" (String.ofList writer.pending.reverse) "")
      pending := [] }

/-- Write a token. -/
def push (writer : Writer) (token : InlineToken) : Writer :=
  let writer := writer.flush
  { writer with tokens := writer.tokens.push token }

/-- Write a line end: a hard one behind two spaces or more.  Spaces in front of it are dropped. -/
def lineEnd (writer : Writer) : Writer :=
  let spaces := (writer.pending.takeWhile (· = ' ')).length
  let type := if 2 ≤ spaces then "hardbreak" else "softbreak"
  { writer with pending := writer.pending.drop spaces }.push (plainToken type "" "")

/-- Write a token that may open or close formatting. -/
def pushDelimiter (length : Nat) (mark : Char) (opens closes : Bool) (content : String)
    (writer : Writer) : Writer :=
  let writer := writer.push (plainToken "text" content "")
  { writer with
    delimiters :=
      writer.delimiters.push
        { mark
          length
          token := writer.tokens.size - 1
          opens
          closes } }

/-- Write a run of marks: tildes in pairs, behind a lone one when their number is odd, and others
one by one. -/
def pushMarks (writer : Writer) (mark : Char) (count : Nat) (opens closes : Bool) : Writer :=
  if mark = '~' then
    let writer := if count % 2 = 1 then writer.push (plainToken "text" "~" "") else writer
    Nat.repeat (pushDelimiter 0 mark opens closes "~~") (count / 2) writer
  else
    Nat.repeat (pushDelimiter count mark opens closes (String.ofList [mark])) count writer

/-- The token that opens a link. -/
def linkToken (target : Target) : InlineToken :=
  { type := "link_open"
    attributes :=
      ("href", .text (String.ofList target.url)) :: Passage.titleAttributes target.title
    nesting := 1 }

/-- Write a link whose text is written by `inner`; its delimiters pair with no others. -/
def pushLink (writer : Writer) (target : Target) (inner : Writer → Scan Writer) : Scan Writer := do
  let opened := writer.push (linkToken target)
  let written ← inner { opened with delimiters := #[] }
  let closed := written.push
    { type := "link_close"
      nesting := -1 }
  return {
    closed with
    delimiters := writer.delimiters
    groups := closed.delimiters :: closed.groups }

end Writer

namespace Passage

/-- Write the elements from a position on, where `element?` reads one and `inner` writes the text of
a link.  Every element takes a character, so that the length of the passage bounds the fuel. -/
def writeFrom (passage : Passage) (element? : Nat → Scan Found)
    (inner : Passage → Nat → Writer → Scan Writer) : Nat → Nat → Writer → Scan Writer
  | 0, _, writer => return writer.flush
  | fuel + 1, position, writer => do
      match passage.inside? position with
      | none => return writer.flush
      | some c =>
          match ← element? position with
          | none => passage.writeFrom element? inner fuel (position + 1) (writer.hold [c])
          | some (element, next) => do
              let written ←
                match element with
                | .text chars => pure (writer.hold chars)
                | .lineEnd => pure writer.lineEnd
                | .tokens tokens => pure (tokens.foldl Writer.push writer)
                | .marks mark count opens closes => pure (writer.pushMarks mark count opens closes)
                | .link target stop =>
                    writer.pushLink target (inner { passage with stop } (position + 1))
              passage.writeFrom element? inner fuel next written

/-- The element at a position, marks included. -/
def elementOrMarks? (passage : Passage) (depth position : Nat) : Scan Found := do
  match passage.charAt? position with
  | some '*' => return passage.marks? position '*'
  | some '_' => return passage.marks? position '_'
  | some '~' => return passage.marks? position '~'
  | _ => passage.element? (passage.skip depth) position

/-- Write the elements of a passage from a position on.  Links nest at most `depth` deep; inside
them everything is text. -/
def write : Nat → Passage → Nat → Writer → Scan Writer
  | 0, passage, position, writer =>
      return (writer.hold (passage.behind position)).flush
  | depth + 1, passage, position, writer =>
      passage.writeFrom (passage.elementOrMarks? (depth + 1)) (write depth)
        (passage.stop - position) position writer

end Passage

/-- Elements nest at most this deep. -/
def mostElements : Nat := 20

/-- Put a token in front of others; pieces of text are joined, and escapes count as text. -/
def joinText (token : InlineToken) (rest : List InlineToken) : List InlineToken :=
  if token.type != "text" && token.type != "text_special" then token :: rest
  else
    match rest with
    | next :: tail =>
        if next.type == "text" then { next with content := token.content ++ next.content } :: tail
        else { token with type := "text" } :: rest
    | [] => [{ token with type := "text" }]

/-- The inline tokens of running text. -/
def inlineTokens (targets : List (List Char × Target)) (text : List Char) : List InlineToken :=
  let chars := text.toArray
  let passage : Passage :=
    { chars
      stop := chars.size
      targets }
  let memory : Memory := { ends := Array.replicate chars.size none }
  let (writer, _) := (passage.write mostElements 0 {}).run memory
  let tokens := formatTokens writer.tokens (writer.delimiters :: writer.groups.reverse)
  tokens.toList.foldr joinText []

end Markdown
end CardPress
