import CardPress.Document.Node
import CardPress.Text.Lines

/-!
# Source of blocks

What a span of lines gives to a block: the end of its content, its source text, the blank lines
behind it, and the lines inside a quote.
-/

namespace CardPress

/-- A range of lines: the first one, and the first one after it. -/
abbrev Span := Int × Int

/-- Why tokens cannot be read as blocks. -/
inductive ReadError where
  /-- A token or a line is missing. -/
  | missing
  /-- A quote does not say which lines it covers. -/
  | unmappedQuote
  /-- The level of a heading is not a digit. -/
  | headingLevel (c : Char)
  deriving DecidableEq, Repr

/-- Move back from `stop` over blank lines, at most `count` of them. -/
def trimBlank (lines : List String) (stop : Int) : Nat → Except ReadError Int
  | 0 => .ok stop
  | count + 1 =>
      match Text.at? lines (stop - 1) with
      | none => .error .missing
      | some line => if Text.isBlankLine line then trimBlank lines (stop - 1) count else .ok stop

/-- The end of a span without the blank lines at its end. -/
def contentEnd (lines : List String) (span : Span) : Except ReadError Int :=
  trimBlank lines span.2 (span.2 - span.1).toNat

/-- The source of a span without the blank lines at its end; without a span there is none. -/
def rawText (lines : List String) : Option Span → Except ReadError String
  | none => .ok ""
  | some span => do
      let stop ← contentEnd lines span
      return "\n".intercalate (Text.slice lines span.1 stop)

/-- One node for each blank line of a range. -/
def spacesBetween (lines : List String) (start stop : Int) : List Block :=
  ((Text.slice lines start stop).filter Text.isBlankLine).map fun _ => .space "\n"

/-- A line without a quote marker: up to three spaces, a `>`, and one space. -/
def dropQuoteMarker (line : String) : String :=
  let chars := line.toList
  let indent := (chars.takeWhile (· = ' ')).length
  match chars.drop indent with
  | '>' :: rest =>
      if indent ≤ 3 then
        match rest with
        | ' ' :: rest => String.ofList rest
        | rest => String.ofList rest
      else
        line
  | _ => line

/-- Drop the quote marker of `count` lines from a position on. -/
def dropMarkersFrom : Nat → Int → List String → Except ReadError (List String)
  | 0, _, lines => .ok lines
  | count + 1, index, lines =>
      match Text.position? lines.length index with
      | none => .error .missing
      | some position =>
          dropMarkersFrom count (index + 1) (lines.modify position dropQuoteMarker)

/-- The lines with the quote markers of a span dropped. -/
def dropQuoteMarkers (lines : List String) (span : Span) : Except ReadError (List String) :=
  dropMarkersFrom (min span.2 lines.length - span.1).toNat span.1 lines

/-- The language of a code block: the first word behind its fence. -/
def fenceLanguage (info : String) : Option String :=
  (Text.words info.toList).head?.map String.ofList

end CardPress
