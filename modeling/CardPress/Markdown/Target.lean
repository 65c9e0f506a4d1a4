import CardPress.Text.Case
import CardPress.Text.Entity
import CardPress.Text.Punctuation

/-!
# Targets of links

What a link or an image points to, as it is written behind its label: a destination and a title.
Both may hold escapes and character references.
-/

namespace CardPress
namespace Markdown

/-- How long the number of a character reference in a target may be. -/
def targetDigits : Text.DigitLimits where
  hexadecimal := 8
  decimal := 8

/-- A text behind its first `skip` characters, with escapes and character references replaced; a
reference that stands for no character is kept. -/
def unescapeFrom : Nat → List Char → List Char
  | _, [] => []
  | skip + 1, _ :: rest => unescapeFrom skip rest
  | 0, '\\' :: next :: rest =>
      if Text.isAsciiPunctuation next then next :: unescapeFrom 0 rest
      else '\\' :: unescapeFrom 0 (next :: rest)
  | 0, c :: rest =>
      match Text.reference? targetDigits (c :: rest) with
      | some reference =>
          reference.characters.getD reference.written ++
            unescapeFrom (reference.written.length - 1) rest
      | none => c :: unescapeFrom 0 rest

/-- A text with escapes and character references replaced. -/
def unescape (chars : List Char) : List Char :=
  unescapeFrom 0 chars

/-- The length of a destination in front of its closing `>`. -/
def angleLength? : List Char → Option Nat
  | [] => none
  | '\\' :: _ :: rest => (angleLength? rest).map (· + 2)
  | c :: rest =>
      if c = '>' then some 0
      else if c = '\n' || c = '<' then none
      else (angleLength? rest).map (· + 1)

/-- Characters that end a destination without angle brackets. -/
def endsDestination (c : Char) : Bool :=
  c.toNat ≤ 0x20 || c.toNat = 0x7F

/-- The length of a destination without angle brackets, inside `depth` open parentheses.  They have
to be closed, and nest at most 32 deep. -/
def plainLength? : Nat → List Char → Option Nat
  | depth, [] => if depth = 0 then some 0 else none
  | depth, '\\' :: next :: rest =>
      if next = ' ' then if depth = 0 then some 0 else none
      else (plainLength? depth rest).map (· + 2)
  | depth, c :: rest =>
      if endsDestination c then if depth = 0 then some 0 else none
      else if c = '(' then
        if depth < 32 then (plainLength? (depth + 1) rest).map (· + 1) else none
      else if c = ')' then
        match depth with
        | 0 => some 0
        | depth + 1 => (plainLength? depth rest).map (· + 1)
      else
        (plainLength? depth rest).map (· + 1)

/-- The destination at the start of a text, and its length as it is written. -/
def destination? : List Char → Option (List Char × Nat)
  | '<' :: rest =>
      (angleLength? rest).map fun length => (unescape (rest.take length), length + 2)
  | chars =>
      match plainLength? 0 chars with
      | some (length + 1) => some (unescape (chars.take (length + 1)), length + 1)
      | _ => none

/-- The length of a title in front of the character that closes it.  A title in parentheses holds no
opening one. -/
def titleLength? (closer : Char) : List Char → Option Nat
  | [] => none
  | '\\' :: _ :: rest => (titleLength? closer rest).map (· + 2)
  | c :: rest =>
      if c = closer then some 0
      else if c = '(' && closer = ')' then none
      else (titleLength? closer rest).map (· + 1)

/-- The character that closes a title. -/
def titleCloser? (opener : Char) : Option Char :=
  if opener = '"' || opener = '\'' then some opener
  else if opener = '(' then some ')'
  else none

/-- The title at the start of a text, and its length as it is written. -/
def title? : List Char → Option (List Char × Nat)
  | [] => none
  | opener :: rest => do
      let closer ← titleCloser? opener
      let length ← titleLength? closer rest
      return (unescape (rest.take length), length + 2)

/-- A text with every run of blank characters as one space, and without those at its ends. -/
def collapseBlanks (chars : List Char) : List Char :=
  [' '].intercalate (Text.words chars)

/-- A label as it is compared with others. -/
def normalizeLabel (label : List Char) : List Char :=
  Text.fold (collapseBlanks label)

end Markdown
end CardPress
