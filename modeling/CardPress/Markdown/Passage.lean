import CardPress.Markdown.Definition
import CardPress.Markdown.Delimiter
import CardPress.Markdown.Tag

/-!
# Passages of running text

A passage is a text with its end moved to where the text of a link ends.  The functions here read
the element that starts at a position: a line end, an escape, a code span, a link, an image, an
automatic link, a piece of HTML, or a character reference.  They share a memory of the places where
elements end, which keeps the search for the ends of labels short.
-/

namespace CardPress
namespace Markdown

/-- What a link points to. -/
structure Target where
  url : List Char
  title : List Char
  deriving DecidableEq, Repr, Inhabited

/-- Running text. -/
structure Passage where
  chars : Array Char
  /-- The position behind the last character that belongs to the passage. -/
  stop : Nat
  /-- The targets of the labels that are defined, the first definition first. -/
  targets : List (List Char × Target)
  deriving Repr, Inhabited

/-- What has been found out about a text. -/
structure Memory where
  /-- The ends of the elements at positions that have been looked at. -/
  ends : Array (Option Nat)
  /-- The last run of backticks of each length that has been passed, the latest first. -/
  runs : List (Nat × Nat) := []
  /-- Whether all runs of backticks have been passed. -/
  seenRuns : Bool := false
  deriving Repr, Inhabited

/-- Reading with a memory. -/
abbrev Scan := StateM Memory

/-- What stands at a position of a passage. -/
inductive Element where
  /-- Characters without a meaning. -/
  | text (chars : List Char)
  | lineEnd
  | tokens (tokens : List InlineToken)
  /-- A link, and the end of its text. -/
  | link (target : Target) (stop : Nat)
  /-- A run of marks that may open or close formatting. -/
  | marks (mark : Char) (count : Nat) (opens closes : Bool)
  deriving Repr

/-- A token without children. -/
def plainToken (type content markup : String) : InlineToken :=
  { type
    content
    markup }

/-- An element and the position behind it, if there is one. -/
abbrev Found := Option (Element × Nat)

/-- Characters that an element may start with. -/
def startsElement? (c : Char) : Bool :=
  "\n!#$%&*+-:<=>@[\\]^_`\x7b\x7d~".toList.contains c

namespace Passage

/-- The character at a position of the whole text. -/
def charAt? (passage : Passage) (position : Nat) : Option Char :=
  passage.chars[position]?

/-- The character at a position inside the passage. -/
def inside? (passage : Passage) (position : Nat) : Option Char :=
  if position < passage.stop then passage.chars[position]? else none

/-- Whether a character stands at a position inside the passage. -/
def sees (passage : Passage) (position : Nat) (c : Char) : Bool :=
  passage.inside? position == some c

/-- The text between two positions. -/
def between (passage : Passage) (start stop : Nat) : List Char :=
  (passage.chars.extract start stop).toList

/-- The passage from a position on. -/
def behind (passage : Passage) (position : Nat) : List Char :=
  passage.between position passage.stop

/-- The whole text from a position on. -/
def textBehind (passage : Passage) (position : Nat) : List Char :=
  passage.between position passage.chars.size

/-- The position behind the characters of a class from a position on. -/
def skipWhile (passage : Passage) (belongs : Char → Bool) (position : Nat) : Nat :=
  if position < passage.stop then
    match passage.chars[position]? with
    | some c => if belongs c then passage.skipWhile belongs (position + 1) else position
    | none => position
  else
    position
  termination_by passage.stop - position

/-! ## Escapes, line ends, code -/

/-- The element of a line end, which takes the spaces behind it along. -/
def lineEnd (passage : Passage) (position : Nat) : Found :=
  some (.lineEnd, passage.skipWhile isSpace (position + 1))

/-- The element of a backslash. -/
def escape? (passage : Passage) (position : Nat) : Found :=
  (passage.inside? (position + 1)).map fun c =>
    if c = '\n' then
      (.tokens [plainToken "hardbreak" "" ""], passage.skipWhile isSpace (position + 2))
    else
      let written := String.ofList ['\\', c]
      let content := if Text.isAsciiPunctuation c then String.ofList [c] else written
      (.tokens [plainToken "text_special" content written], position + 2)

/-- The text of a code span: line feeds count as spaces, and one space at both ends is dropped. -/
def codeText (chars : List Char) : List Char :=
  let chars := chars.map fun c => if c = '\n' then ' ' else c
  if chars.head? = some ' ' && chars.getLast? = some ' ' && !chars.all Text.isBlank then
    chars.tail.dropLast
  else
    chars

/-- The next backtick of the whole text from a position on. -/
def backtick? (passage : Passage) (position : Nat) : Option Nat :=
  if inside : position < passage.chars.size then
    if passage.chars[position] = '`' then some position else passage.backtick? (position + 1)
  else
    none
  termination_by passage.chars.size - position

/-- The run of `length` backticks that closes a code span, looked for from a position on, and the
runs of other lengths in front of it.  Every step passes a backtick, so that the length of the text
bounds the fuel. -/
def closingRun? (passage : Passage) (length : Nat) :
    Nat → List (Nat × Nat) → Nat → Option (Nat × Nat) × List (Nat × Nat)
  | 0, runs, _ => (none, runs)
  | fuel + 1, runs, position =>
      match passage.backtick? position with
      | none => (none, runs)
      | some start =>
          let stop := passage.skipWhile (· = '`') (start + 1)
          if stop - start = length then (some (start, stop), runs)
          else passage.closingRun? length fuel ((stop - start, start) :: runs) stop

/-- The element of a run of backticks: a code span, or text when no run of its length follows. -/
def code (passage : Passage) (position : Nat) : Scan Found := do
  let start := passage.skipWhile (· = '`') (position + 1)
  let length := start - position
  let marks := List.replicate length '`'
  let memory ← get
  if memory.seenRuns && (memory.runs.lookup length).getD 0 ≤ position then
    return some (.text marks, start)
  let (closing?, runs) := passage.closingRun? length passage.chars.size memory.runs start
  match closing? with
  | some (closing, stop) =>
      set { memory with runs }
      let content := String.ofList (codeText (passage.between start closing))
      return some (.tokens [plainToken "code_inline" content (String.ofList marks)], stop)
  | none =>
      set { memory with runs, seenRuns := true }
      return some (.text marks, start)

/-! ## Links and images -/

/-- The end of the label whose opening bracket stands in front of a position, inside `level`
brackets.  Where links are refused, a label that holds one has no end.  Every element takes a
character, so that the length of the passage bounds the fuel. -/
def labelEnd? (passage : Passage) (skip : Nat → Scan Nat) (refusesLinks : Bool) :
    Nat → Nat → Nat → Scan (Option Nat)
  | 0, _, _ => return none
  | fuel + 1, level, position => do
      match passage.inside? position with
      | none => return none
      | some c =>
          if c = ']' && level ≤ 1 then return some position
          let level := if c = ']' then level - 1 else level
          let next ← skip position
          if c != '[' then passage.labelEnd? skip refusesLinks fuel level next
          else if next = position + 1 then passage.labelEnd? skip refusesLinks fuel (level + 1) next
          else if refusesLinks then return none
          else passage.labelEnd? skip refusesLinks fuel level next

/-- The end of the label that starts at an opening bracket. -/
def label? (passage : Passage) (skip : Nat → Scan Nat) (refusesLinks : Bool) (position : Nat) :
    Scan (Option Nat) :=
  passage.labelEnd? skip refusesLinks (passage.stop - position) 1 (position + 1)

/-- A target in parentheses. -/
structure DirectTarget where
  target : Target
  /-- The position at which the target ends. -/
  stop : Nat
  /-- Whether a closing parenthesis stands there. -/
  isClosed : Bool

/-- The target in parentheses behind a position; there is none when the passage ends before it. -/
def directTarget? (passage : Passage) (position : Nat) : Option DirectTarget :=
  let start := passage.skipWhile isGap position
  if passage.stop ≤ start then none
  else
    let (target, stop) :=
      match destination? (passage.behind start) with
      | none => ({ url := [], title := [] }, start)
      | some (destination, width) =>
          let url := Url.normalize destination
          let isAllowed := Url.isAllowed url
          let stop := if isAllowed then start + width else start
          let url := if isAllowed then url else []
          let titleStart := passage.skipWhile isGap stop
          match title? (passage.behind titleStart) with
          | some (title, width) =>
              if titleStart = stop then ({ url, title := [] }, titleStart)
              else ({ url, title }, passage.skipWhile isGap (titleStart + width))
          | none => ({ url, title := [] }, titleStart)
    some {
      target
      stop
      isClosed := passage.sees stop ')' }

/-- The target of a label that is defined, and the position behind the reference.  The label follows
in brackets at a position, or is the text between `start` and `stop` itself. -/
def referenceTarget? (passage : Passage) (skip : Nat → Scan Nat) (start stop position : Nat) :
    Scan (Option (Target × Nat)) := do
  if passage.targets.isEmpty then return none
  let labelStop? ←
    if passage.sees position '[' then passage.label? skip false position else pure none
  let (label, next) :=
    match labelStop? with
    | some labelStop => (passage.between (position + 1) labelStop, labelStop + 1)
    | none => ([], stop + 1)
  let label := if label.isEmpty then passage.between start stop else label
  return (passage.targets.lookup (normalizeLabel label)).map fun target => (target, next)

/-- The element of an opening bracket: a link, when a target follows its text.  Where what stands in
parentheses is no target, a label is looked for behind it. -/
def link? (passage : Passage) (skip : Nat → Scan Nat) (position : Nat) : Scan Found := do
  match ← passage.label? skip true position with
  | none => return none
  | some stop =>
      let reference (next : Nat) : Scan Found := do
        let found ← passage.referenceTarget? skip (position + 1) stop next
        return found.map fun (target, next) => (.link target stop, next)
      if !passage.sees (stop + 1) '(' then reference (stop + 1)
      else
        match passage.directTarget? (stop + 2) with
        | none => return none
        | some direct =>
            if direct.isClosed then return some (.link direct.target stop, direct.stop + 1)
            else reference (direct.stop + 1)

/-- The attributes of a title, which is left out when it is empty. -/
def titleAttributes (title : List Char) : List (String × AttributeValue) :=
  if title.isEmpty then [] else [("title", .text (String.ofList title))]

/-- The token of an image. -/
def imageToken (target : Target) (content : List Char) : InlineToken :=
  { type := "image"
    content := String.ofList content
    attributes :=
      ("src", .text (String.ofList target.url)) :: ("alt", .text "") ::
        titleAttributes target.title }

/-- The element of an exclamation mark: an image, when a label and a target follow. -/
def image? (passage : Passage) (skip : Nat → Scan Nat) (position : Nat) : Scan Found := do
  if !passage.sees (position + 1) '[' then return none
  match ← passage.label? skip false (position + 1) with
  | none => return none
  | some stop =>
      let start := position + 2
      let found (target : Target) (next : Nat) : Element × Nat :=
        (.tokens [imageToken target (passage.between start stop)], next)
      if !passage.sees (stop + 1) '(' then
        let reference ← passage.referenceTarget? skip start stop (stop + 1)
        return reference.map fun (target, next) => found target next
      else
        match passage.directTarget? (stop + 2) with
        | none => return none
        | some direct =>
            return if direct.isClosed then some (found direct.target (direct.stop + 1)) else none

/-! ## Automatic links, HTML, character references -/

/-- A text without a line feed at its end. -/
def dropLastLineFeed (chars : List Char) : List Char :=
  if chars.getLast? = some '\n' then chars.dropLast else chars

/-- Whether a text is an address with a scheme of two to 32 characters. -/
def isAddress (chars : List Char) : Bool :=
  let scheme := chars.takeWhile fun c => c.isAlphanum || c = '+' || c = '.' || c = '-'
  match chars.drop scheme.length with
  | ':' :: rest =>
      (scheme.head?.map Char.isAlpha).getD false && 2 ≤ scheme.length && scheme.length ≤ 32 &&
        (dropLastLineFeed rest).all fun c => 0x20 < c.toNat && c != '<' && c != '>'
  | _ => false

/-- Whether a text is a label of a mail address's domain. -/
def isDomainLabel (label : List Char) : Bool :=
  !label.isEmpty && label.length ≤ 63 && label.all (fun c => c.isAlphanum || c = '-') &&
    label.head? != some '-' && label.getLast? != some '-'

/-- Whether a text is a mail address. -/
def isMailAddress (chars : List Char) : Bool :=
  match List.splitOn '@' (dropLastLineFeed chars) with
  | [user, domain] =>
      !user.isEmpty &&
        user.all (fun c => c.isAlphanum || ".!#$%&'*+/=?^_`\x7b|\x7d~-".toList.contains c) &&
        (List.splitOn '.' domain).all isDomainLabel
  | _ => false

/-- The tokens of an automatic link. -/
def automaticLink (url shown : List Char) : List InlineToken :=
  [{ type := "link_open"
     markup := "autolink"
     attributes := [("href", .text (String.ofList url))]
     nesting := 1 },
    plainToken "text" (String.ofList (Url.display shown)) "",
    { type := "link_close"
      markup := "autolink"
      nesting := -1 }]

/-- The element of an address in angle brackets. -/
def automatic? (passage : Passage) (position : Nat) : Found :=
  let stop := passage.skipWhile (fun c => c != '<' && c != '>') (position + 1)
  if !passage.sees stop '>' then none
  else
    let shown := passage.between (position + 1) stop
    let full? :=
      if isAddress shown then some shown
      else if isMailAddress shown then some ("mailto:".toList ++ shown)
      else none
    match full?.map Url.normalize with
    | some url =>
        if Url.isAllowed url then some (.tokens (automaticLink url shown), stop + 1) else none
    | none => none

/-- The element of a piece of HTML. -/
def markup? (passage : Passage) (position : Nat) : Found :=
  if passage.stop ≤ position + 2 then none
  else
    let chars := passage.textBehind position
    (markupLength? chars).map fun length =>
      (.tokens [plainToken "html_inline" (String.ofList (chars.take length)) ""],
        position + length)

/-- How long the number of a character reference in running text may be. -/
def textDigits : Text.DigitLimits where
  hexadecimal := 6
  decimal := 7

/-- The element of a character reference. -/
def reference? (passage : Passage) (position : Nat) : Found :=
  (Text.reference? textDigits (passage.textBehind position)).map fun reference =>
    let content := String.ofList (reference.characters.getD [Url.replacement])
    (.tokens [plainToken "text_special" content (String.ofList reference.written)],
      position + reference.written.length)

/-- The element of a run of marks. -/
def marks? (passage : Passage) (position : Nat) (mark : Char) : Found :=
  let stop := passage.skipWhile (· = mark) position
  let before := if position = 0 then ' ' else (passage.charAt? (position - 1)).getD ' '
  let after := (passage.inside? stop).getD ' '
  let (opens, closes) := flanks (mark != '_') before after
  if mark = '~' && stop < position + 2 then none
  else some (.marks mark (stop - position) opens closes, stop)

/-! ## All elements -/

/-- The element at a position, where marks count for themselves. -/
def element? (passage : Passage) (skip : Nat → Scan Nat) (position : Nat) : Scan Found :=
  match passage.charAt? position with
  | none => return none
  | some c =>
      match c with
      | '\n' => return passage.lineEnd position
      | '\\' => return passage.escape? position
      | '`' => passage.code position
      | '[' => passage.link? skip position
      | '!' => passage.image? skip position
      | '<' => return passage.automatic? position <|> passage.markup? position
      | '&' => return passage.reference? position
      | c =>
          if startsElement? c then return none
          else
            let stop := passage.skipWhile (!startsElement? ·) position
            return some (.text (passage.between position stop), stop)

/-- The position behind the element at a position, inside elements of which `depth` more may be
nested.  Where none may, the whole passage is passed. -/
def skip (passage : Passage) : Nat → Nat → Scan Nat
  | depth, position => do
      match ((← get).ends[position]?).join with
      | some next => return next
      | none =>
          let next ←
            match depth with
            | 0 => pure (passage.stop + 1)
            | depth + 1 => do
                let found ← passage.element? (passage.skip depth) position
                pure ((found.map (·.2)).getD (position + 1))
          modify fun memory =>
            { memory with ends := memory.ends.setIfInBounds position (some next) }
          return next

end Passage

end Markdown
end CardPress
