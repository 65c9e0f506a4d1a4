import CardPress.Text.Case

/-!
# Punycode

Labels of host names in ASCII: the ASCII characters of the label come first, and behind a hyphen
numbers of varying length say where the other characters are inserted.
-/

namespace CardPress
namespace Url
namespace Punycode

/-- The weight at which a digit at a position ends a number. -/
def threshold (bias position : Nat) : Nat :=
  min 26 (max 1 (36 * (position + 1) - bias))

/-- Bring a difference into the range of one digit, and count the divisions by 36 each. -/
def scale (delta bias : Nat) : Nat × Nat :=
  if 455 < delta then scale (delta / 35) (bias + 36) else (delta, bias)
  termination_by delta
  decreasing_by omega

/-- The bias behind a number, which follows the size of the numbers. -/
def adapt (delta : Nat) (isFirst : Bool) (size : Nat) : Nat :=
  let delta := if isFirst then delta / 700 else delta / 2
  let (delta, bias) := scale (delta + delta / size) 0
  bias + 36 * delta / (delta + 38)

/-- The digits: letters, then decimal digits. -/
def digit (value : Nat) : Char :=
  Char.ofNat (if value < 26 then 97 + value else 22 + value)

/-- The digits of a number from a position on. -/
def digitsFrom (bias position value : Nat) : List Char :=
  let limit := threshold bias position
  if value < limit then [digit value]
  else
    digit (limit + (value - limit) % (36 - limit)) ::
      digitsFrom bias (position + 1) ((value - limit) / (36 - limit))
  termination_by value
  decreasing_by
    rename_i large
    have positive : 1 ≤ limit := by
      simp only [limit, threshold]
      omega
    exact Nat.lt_of_le_of_lt (Nat.div_le_self _ _) (by omega)

/-- The state of encoding: what has been written, last character first, and how many characters
are placed. -/
structure Encoder where
  written : List Char
  /-- The positions passed since the last number was written. -/
  delta : Nat
  bias : Nat
  placed : Nat
  isFirst : Bool

/-- Pass one character of the label while characters with a code point are placed. -/
def Encoder.pass (code : Nat) (encoder : Encoder) (c : Char) : Encoder :=
  if c.toNat < code then { encoder with delta := encoder.delta + 1 }
  else if c.toNat = code then
    { written := (digitsFrom encoder.bias 0 encoder.delta).reverse ++ encoder.written
      delta := 0
      bias := adapt encoder.delta encoder.isFirst (encoder.placed + 1)
      placed := encoder.placed + 1
      isFirst := false }
  else
    encoder

/-- Place the characters of ascending code points, where those below `next` are placed. -/
def Encoder.place (label : List Char) (next : Nat) : List Nat → Encoder → Encoder
  | [], encoder => encoder
  | code :: codes, encoder =>
      let start :=
        { encoder with delta := encoder.delta + (code - next) * (encoder.placed + 1) }
      let stop := label.foldl (Encoder.pass code) start
      place label (code + 1) codes { stop with delta := stop.delta + 1 }

/-- A label in ASCII. -/
def encode (label : List Char) : List Char :=
  let basic := label.filter fun c => c.toNat < 0x80
  let codes := ((label.map Char.toNat).filter (0x80 ≤ ·)).mergeSort.eraseDups
  let lead := if basic.isEmpty then [] else basic ++ ['-']
  let encoder :=
    Encoder.place label 0x80 codes
      { written := []
        delta := 0
        bias := 72
        placed := basic.length
        isFirst := true }
  lead ++ encoder.written.reverse

/-- The value of a digit. -/
def digitValue? (c : Char) : Option Nat :=
  if c.isDigit then some (c.toNat - 22)
  else if c.isAlpha then some (c.toLower.toNat - 97)
  else none

/-- Read a number whose digits so far denote `value`, and the text behind it. -/
def readNumber? (bias : Nat) : Nat → Nat → Nat → List Char → Option (Nat × List Char)
  | _, _, _, [] => none
  | position, weight, value, c :: rest => do
      let digit ← digitValue? c
      let value := value + digit * weight
      let limit := threshold bias position
      if digit < limit then return (value, rest)
      readNumber? bias (position + 1) (weight * (36 - limit)) value rest

/-- Insert a character at a position. -/
def insertAt (chars : List Char) (position : Nat) (c : Char) : List Char :=
  chars.take position ++ c :: chars.drop position

/-- Insert the characters that numbers tell of, where `next` is the least position at which the
next one may stand.  Every number has a digit, so that the length of the text bounds the fuel. -/
def insertAll? :
    Nat → Nat → Nat → Nat → Bool → List Char → List Char → Option (List Char)
  | _, _, _, _, _, label, [] => some label
  | 0, _, _, _, _, _, _ :: _ => none
  | fuel + 1, code, next, bias, isFirst, label, numbers@(_ :: _) => do
      let (delta, rest) ← readNumber? bias 0 1 0 numbers
      let position := next + delta
      let code := code + position / (label.length + 1)
      if !code.isValidChar then none
      else
        let position := position % (label.length + 1)
        let label := insertAt label position (Char.ofNat code)
        insertAll? fuel code (position + 1) (adapt delta isFirst label.length) false label rest

/-- The label that a text in ASCII stands for. -/
def decode? (chars : List Char) : Option (List Char) :=
  if chars.any fun c => 0x80 ≤ c.toNat then none
  else
    let numbers := (chars.reverse.takeWhile (· != '-')).reverse
    let basic := (chars.take (chars.length - numbers.length)).dropLast
    insertAll? numbers.length 0x80 0 72 true basic numbers

end Punycode
end Url
end CardPress
