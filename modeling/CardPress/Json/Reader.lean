import CardPress.Json.Basic

/-!
# Reading JSON

A reader for the JSON grammar: exactly one value, with white space allowed around every token.
The fuel of the recursive functions bounds the nesting and the number of entries, and a text never
needs more of it than it has characters.
-/

namespace CardPress
namespace Json

/-- The four characters that may stand between tokens. -/
def isGap (point : CodePoint) : Bool :=
  point = .char ' ' || point = .char '\n' || point = .char '\r' || point = .char '\t'

/-- Drop the white space in front of a token. -/
def skipGap (points : List CodePoint) : List CodePoint :=
  points.dropWhile isGap

/-- The value of a hexadecimal digit of either case. -/
def hexValue? (c : Char) : Option Nat :=
  if '0' ≤ c ∧ c ≤ '9' then some (c.toNat - 48)
  else if 'a' ≤ c ∧ c ≤ 'f' then some (c.toNat - 87)
  else if 'A' ≤ c ∧ c ≤ 'F' then some (c.toNat - 55)
  else none

/-- The number written by four hexadecimal digits. -/
def hexQuad? : List CodePoint → Option (Nat × List CodePoint)
  | .char a :: .char b :: .char c :: .char d :: rest => do
      let a ← hexValue? a
      let b ← hexValue? b
      let c ← hexValue? c
      let d ← hexValue? d
      return (((a * 16 + b) * 16 + c) * 16 + d, rest)
  | _ => none

/-- The character that stands after a backslash, for the escapes of one letter. -/
def unescape? : Char → Option Char
  | '"' => some '"'
  | '\\' => some '\\'
  | '/' => some '/'
  | 'b' => some '\x08'
  | 'f' => some '\x0c'
  | 'n' => some '\n'
  | 'r' => some '\r'
  | 't' => some '\t'
  | _ => none

/-- The second half of a surrogate pair, when the escape for one comes next. -/
def lowHalf? : List CodePoint → Option (Nat × List CodePoint)
  | .char '\\' :: .char 'u' :: rest =>
      (hexQuad? rest).filter fun (code, _) => 0xDC00 ≤ code && code < 0xE000
  | _ => none

/-- The code point of a numbered escape; both halves of a surrogate pair stand for one character. -/
def codePoint (code : Nat) (rest : List CodePoint) : CodePoint × List CodePoint :=
  if 0xD800 ≤ code ∧ code < 0xDC00 then
    match lowHalf? rest with
    | some (low, rest) =>
        (.char (Char.ofNat (0x10000 + (code - 0xD800) * 1024 + (low - 0xDC00))), rest)
    | none => (.ofNat code, rest)
  else
    (.ofNat code, rest)

/-- The code points up to the closing quote, and what follows it. -/
def readText : Nat → List CodePoint → Option (List CodePoint × List CodePoint)
  | 0, _ => none
  | _, [] => none
  | _, .char '"' :: rest => some ([], rest)
  | fuel + 1, .char '\\' :: .char 'u' :: rest => do
      let (code, rest) ← hexQuad? rest
      let (point, rest) := codePoint code rest
      let (points, rest) ← readText fuel rest
      return (point :: points, rest)
  | fuel + 1, .char '\\' :: .char letter :: rest => do
      let c ← unescape? letter
      let (points, rest) ← readText fuel rest
      return (.char c :: points, rest)
  | fuel + 1, point :: rest =>
      if point.code < 32 ∨ point = .char '\\' then none
      else do
        let (points, rest) ← readText fuel rest
        return (point :: points, rest)

/-- The decimal digits at the front of a text, and what follows them. -/
def spanDigits : List CodePoint → List Char × List CodePoint
  | .char c :: rest =>
      if c.isDigit then
        let (found, rest) := spanDigits rest
        (c :: found, rest)
      else
        ([], .char c :: rest)
  | points => ([], points)

/-- The number that a run of decimal digits stands for. -/
def ofDigits (chars : List Char) : Nat :=
  chars.foldl (fun value c => value * 10 + (c.toNat - 48)) 0

/-- The whole part of a number: a zero alone, or digits that do not start with one. -/
def readWhole (points : List CodePoint) : Option (List Char × List CodePoint) :=
  match points with
  | .char '0' :: rest => some (['0'], rest)
  | _ =>
      match spanDigits points with
      | ([], _) => none
      | found => some found

/-- The fraction of a number, with its point; empty when there is none. -/
def readFraction (points : List CodePoint) : Option (List Char × List CodePoint) :=
  match points with
  | .char '.' :: rest =>
      match spanDigits rest with
      | ([], _) => none
      | (found, rest) => some ('.' :: found, rest)
  | _ => some ([], points)

/-- The exponent of a number, with its letter and sign; empty when there is none. -/
def readExponent (points : List CodePoint) : Option (List Char × List CodePoint) :=
  match points with
  | .char c :: rest =>
      if c = 'e' ∨ c = 'E' then
        let (sign, rest) :=
          match rest with
          | .char '+' :: rest => (['+'], rest)
          | .char '-' :: rest => (['-'], rest)
          | _ => ([], rest)
        match spanDigits rest with
        | ([], _) => none
        | (found, rest) => some (c :: sign ++ found, rest)
      else
        some ([], points)
  | _ => some ([], points)

/-- A number: an integer when it has neither fraction nor exponent. -/
def readNumber (points : List CodePoint) : Option (Json × List CodePoint) := do
  let (negative, unsigned) :=
    match points with
    | .char '-' :: rest => (true, rest)
    | _ => (false, points)
  let (whole, rest) ← readWhole unsigned
  let (fraction, rest) ← readFraction rest
  let (exponent, rest) ← readExponent rest
  if fraction.isEmpty && exponent.isEmpty then
    let magnitude : Int := ofDigits whole
    return (.integer (if negative then -magnitude else magnitude), rest)
  else
    let sign := if negative then ['-'] else []
    return (.decimal (String.ofList (sign ++ whole ++ fraction ++ exponent)), rest)

/-- The rest of a text after a literal name. -/
def expect? : List Char → List CodePoint → Option (List CodePoint)
  | [], rest => some rest
  | wanted :: name, point :: rest => if point = .char wanted then expect? name rest else none
  | _ :: _, [] => none

mutual

/-- One value at the front of a text, and what follows it. -/
def readValue : Nat → List CodePoint → Option (Json × List CodePoint)
  | 0, _ => none
  | fuel + 1, points =>
      match points with
      | [] => none
      | .char '"' :: rest => do
          let (found, rest) ← readText (rest.length + 1) rest
          return (.text ⟨found⟩, rest)
      | .char '[' :: rest =>
          match skipGap rest with
          | .char ']' :: rest => some (.list [], rest)
          | rest => do
              let (items, rest) ← readItems fuel rest
              return (.list items, rest)
      | .char '\x7b' :: rest =>
          match skipGap rest with
          | .char '\x7d' :: rest => some (.object [], rest)
          | rest => do
              let (fields, rest) ← readFields fuel rest
              return (.object fields, rest)
      | .char 'n' :: rest => return (.null, ← expect? "ull".toList rest)
      | .char 't' :: rest => return (.bool true, ← expect? "rue".toList rest)
      | .char 'f' :: rest => return (.bool false, ← expect? "alse".toList rest)
      | points => readNumber points

/-- The items of a list up to its closing bracket; there is at least one. -/
def readItems : Nat → List CodePoint → Option (List Json × List CodePoint)
  | 0, _ => none
  | fuel + 1, points => do
      let (item, rest) ← readValue fuel points
      match skipGap rest with
      | .char ',' :: rest => do
          let (items, rest) ← readItems fuel (skipGap rest)
          return (item :: items, rest)
      | .char ']' :: rest => return ([item], rest)
      | _ => none

/-- The fields of an object up to its closing brace; there is at least one, and their keys are
texts of characters. -/
def readFields : Nat → List CodePoint → Option (List (String × Json) × List CodePoint)
  | 0, _ => none
  | fuel + 1, points =>
      match points with
      | .char '"' :: rest => do
          let (found, rest) ← readText (rest.length + 1) rest
          let key ← (CodeText.mk found).string?
          match skipGap rest with
          | .char ':' :: rest => do
              let (value, rest) ← readValue fuel (skipGap rest)
              match skipGap rest with
              | .char ',' :: rest => do
                  let (fields, rest) ← readFields fuel (skipGap rest)
                  return ((key, value) :: fields, rest)
              | .char '\x7d' :: rest => return ([(key, value)], rest)
              | _ => none
          | _ => none
      | _ => none

end

/-- The value that a whole text stands for. -/
def read? (source : CodeText) : Option Json :=
  let points := skipGap source.points
  match readValue (points.length + 1) points with
  | some (value, rest) => if (skipGap rest).isEmpty then some value else none
  | none => none

end Json
end CardPress
