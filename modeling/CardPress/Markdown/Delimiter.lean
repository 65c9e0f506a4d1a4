import CardPress.Markdown.Line
import CardPress.Markdown.Token
import CardPress.Text.Punctuation

/-!
# Delimiters

Runs of `*`, `_` and `~` may open or close formatting.  Which of them do is decided once the whole
text has been read: every closing delimiter takes the nearest opening one in front of it that
matches.
-/

namespace CardPress
namespace Markdown

/-- White space next to which a run cannot open or close: all but the separators of lines and
paragraphs. -/
def isFlankWhite (c : Char) : Bool :=
  isWhite c && c != '\u2028' && c != '\u2029'

/-- Whether a run between two characters may open and whether it may close formatting, where `split`
allows it inside a word. -/
def flanks (split : Bool) (before after : Char) : Bool × Bool :=
  let left := !(isFlankWhite after ||
    (Text.isPunctuation after && !(isFlankWhite before || Text.isPunctuation before)))
  let right := !(isFlankWhite before ||
    (Text.isPunctuation before && !(isFlankWhite after || Text.isPunctuation after)))
  (left && (split || !right || Text.isPunctuation before),
    right && (split || !left || Text.isPunctuation after))

/-- A token that may open or close formatting. -/
structure Delimiter where
  mark : Char
  /-- The length of the run that the delimiter belongs to, where it counts. -/
  length : Nat
  /-- The index of the delimiter's token. -/
  token : Nat
  opens : Bool
  closes : Bool
  /-- The index of the delimiter that closes this one. -/
  closer : Option Nat := none
  deriving DecidableEq, Repr, Inhabited

/-- Whether the lengths of two runs forbid that one closes the other: when one of them could do
both, their sum must not be a multiple of three, unless both are. -/
def Delimiter.isOdd (opener closer : Delimiter) : Bool :=
  (opener.closes || closer.opens) && (opener.length + closer.length) % 3 == 0 &&
    (opener.length % 3 != 0 || closer.length % 3 != 0)

/-- Whether a delimiter can be closed by another one. -/
def Delimiter.matches (opener closer : Delimiter) : Bool :=
  opener.mark == closer.mark && opener.opens && opener.closer.isNone && !opener.isOdd closer

/-- The state of the search for pairs. -/
structure Pairing where
  delimiters : Array Delimiter
  /-- How many delimiters in front of each one need not be looked at. -/
  jumps : Array Nat := #[]
  /-- For each kind of closing delimiter, how many delimiters at the start have no opener for it. -/
  bottoms : List ((Char × Bool × Nat) × Nat) := []
  /-- The first delimiter of the current run. -/
  header : Nat := 0
  /-- The token of the delimiter in front, unless a pair has just been closed. -/
  lastToken : Option Nat := none

namespace Pairing

/-- The delimiter at an index. -/
def delimiter (pairing : Pairing) (index : Nat) : Delimiter :=
  pairing.delimiters[index]?.getD default

/-- How many delimiters in front of one need not be looked at. -/
def jump (pairing : Pairing) (index : Nat) : Nat :=
  pairing.jumps[index]?.getD 0

/-- The nearest opener for a delimiter among the first `count` ones, of which the first `bottom` are
known to hold none. -/
def opener? (pairing : Pairing) (closer : Delimiter) (bottom : Nat) : Nat → Option Nat
  | 0 => none
  | count + 1 =>
      if count < bottom then none
      else if (pairing.delimiter count).matches closer then some count
      else pairing.opener? closer bottom (count - pairing.jump count)
  termination_by count => count
  decreasing_by omega

/-- The kinds of closing delimiters that share their failed searches. -/
def kind (closer : Delimiter) : Char × Bool × Nat :=
  (closer.mark, closer.opens, closer.length % 3)

/-- Start a new run at a delimiter, unless it goes on with the one in front. -/
def enterRun (pairing : Pairing) (index : Nat) : Pairing :=
  let delimiter := pairing.delimiter index
  let goesOn := (pairing.delimiter pairing.header).mark == delimiter.mark &&
    pairing.lastToken.map (· + 1) == some delimiter.token
  { pairing with
    jumps := pairing.jumps.push 0
    header := if goesOn then pairing.header else index
    lastToken := some delimiter.token }

/-- Let a delimiter close another one. -/
def close (pairing : Pairing) (opener closer : Nat) : Pairing :=
  let passed :=
    if 0 < opener && !(pairing.delimiter (opener - 1)).opens then pairing.jump (opener - 1) + 1
    else 0
  { pairing with
    delimiters :=
      (pairing.delimiters.modify closer fun delimiter => { delimiter with opens := false }).modify
        opener fun delimiter => { delimiter with closer := some closer, closes := false }
    jumps :=
      (pairing.jumps.setIfInBounds closer (closer - opener + passed)).setIfInBounds opener passed
    lastToken := none }

/-- Find the opener of a delimiter, if it may close one. -/
def step (pairing : Pairing) (index : Nat) : Pairing :=
  let pairing := pairing.enterRun index
  let closer := pairing.delimiter index
  if !closer.closes then pairing
  else
    let bottom := (pairing.bottoms.lookup (kind closer)).getD 0
    let count := pairing.header - pairing.jump pairing.header
    match pairing.opener? closer bottom count with
    | some opener => pairing.close opener index
    | none =>
        if count = 0 then pairing
        else { pairing with bottoms := (kind closer, count) :: pairing.bottoms }

end Pairing

/-- The delimiters with every opener told which one closes it. -/
def pairDelimiters (delimiters : Array Delimiter) : Array Delimiter :=
  ((List.range delimiters.size).foldl Pairing.step { delimiters }).delimiters

/-! ## Formatting -/

/-- Turn the token of a delimiter into one that opens or closes formatting. -/
def formatToken (tokens : Array InlineToken) (index : Nat) (type markup : String) (nesting : Int) :
    Array InlineToken :=
  tokens.modify index fun token =>
    { token with
      type
      markup
      nesting
      content := "" }

/-- Turn the tokens of a pair into ones that open and close formatting. -/
def formatPair (tokens : Array InlineToken) (opener closer : Nat) (name markup : String) :
    Array InlineToken :=
  formatToken (formatToken tokens opener (name ++ "_open") markup 1) closer (name ++ "_close")
    markup (-1)

/-- Whether a token is a tilde that is left over from a run of odd length. -/
def isLoneTilde (tokens : Array InlineToken) (index : Nat) : Bool :=
  match tokens[index]? with
  | some token => token.type == "text" && token.content == "~"
  | none => false

/-- The last one of the tokens from an index on that close a strikethrough. -/
def lastStrikeClose (tokens : Array InlineToken) (index : Nat) : Nat :=
  if inside : index + 1 < tokens.size then
    if tokens[index + 1].type == "s_close" then lastStrikeClose tokens (index + 1) else index
  else
    index
  termination_by tokens.size - index

/-- Move a tilde behind the tokens that close strikethroughs. -/
def moveTilde (tokens : Array InlineToken) (index : Nat) : Array InlineToken :=
  tokens.swapIfInBounds index (lastStrikeClose tokens index)

/-- Turn pairs of tildes into strikethroughs. -/
def formatStrikes (tokens : Array InlineToken) (delimiters : Array Delimiter) :
    Array InlineToken :=
  let step (state : Array InlineToken × List Nat) (delimiter : Delimiter) :=
    match delimiter.mark, delimiter.closer with
    | '~', some closer =>
        let stop := (delimiters[closer]?.getD default).token
        let tokens := formatPair state.1 delimiter.token stop "s" "~~"
        (tokens, if isLoneTilde tokens (stop - 1) then (stop - 1) :: state.2 else state.2)
    | _, _ => state
  let (tokens, tildes) := delimiters.foldl step (tokens, [])
  tildes.foldl moveTilde tokens

/-- Turn pairs of stars and underscores into emphasis, from the last one on.  Two pairs directly
inside each other are strong emphasis. -/
def formatEmphasis (delimiters : Array Delimiter) : Nat → Array InlineToken → Array InlineToken
  | 0, tokens => tokens
  | index + 1, tokens =>
      let opener := delimiters[index]?.getD default
      match opener.closer with
      | none => formatEmphasis delimiters index tokens
      | some closerIndex =>
          if opener.mark = '~' then formatEmphasis delimiters index tokens
          else
            let closer := delimiters[closerIndex]?.getD default
            let outer := delimiters[index - 1]?.getD default
            let outerCloser := delimiters[closerIndex + 1]?.getD default
            let isStrong := 0 < index && outer.closer == some (closerIndex + 1) &&
              outer.mark == opener.mark && outer.token + 1 == opener.token &&
              outerCloser.token == closer.token + 1
            if isStrong then
              let markup := String.ofList [opener.mark, opener.mark]
              let tokens := formatPair tokens opener.token closer.token "strong" markup
              let clear (tokens : Array InlineToken) (index : Nat) :=
                tokens.modify index fun token => { token with content := "" }
              formatEmphasis delimiters (index - 1)
                (clear (clear tokens outer.token) outerCloser.token)
            else
              let markup := String.ofList [opener.mark]
              formatEmphasis delimiters index
                (formatPair tokens opener.token closer.token "em" markup)

/-- The tokens of a text with its delimiters turned into formatting; every link has delimiters of
its own. -/
def formatTokens (tokens : Array InlineToken) (groups : List (Array Delimiter)) :
    Array InlineToken :=
  let groups := groups.map pairDelimiters
  let tokens := groups.foldl formatStrikes tokens
  groups.foldl (fun tokens group => formatEmphasis group group.size tokens) tokens

end Markdown
end CardPress
