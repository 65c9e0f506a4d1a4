import CardPress.Text.Entity
import CardPress.Text.Quoted

/-!
# Percent encoding

Bytes of an address written as `%` and two hexadecimal digits.  Encoding keeps what is encoded
already; decoding reads the bytes as UTF-8 and shows every faulty sequence as replacement
characters.
-/

namespace CardPress
namespace Url

/-- The character that stands for what cannot be read. -/
def replacement : Char := '\uFFFD'

/-- A byte as `%` and two digits. -/
def escapeByte (byte : Nat) : List Char :=
  '%' :: (Text.hex 2 byte).map Char.toUpper

/-- The bytes of a character in UTF-8. -/
def utf8 (c : Char) : List Nat :=
  let code := c.toNat
  if code < 0x80 then [code]
  else if code < 0x800 then [0xC0 + code / 0x40, 0x80 + code % 0x40]
  else if code < 0x10000 then
    [0xE0 + code / 0x1000, 0x80 + code / 0x40 % 0x40, 0x80 + code % 0x40]
  else
    [0xF0 + code / 0x40000, 0x80 + code / 0x1000 % 0x40, 0x80 + code / 0x40 % 0x40,
      0x80 + code % 0x40]

/-- Whether a character stands for itself in an encoded address. -/
def isPlain (c : Char) : Bool :=
  c.isAlphanum || ";/?:@&=+$,-_.!~*'()#".toList.contains c

/-- One character of an address, encoded. -/
def encodeChar (c : Char) : List Char :=
  if isPlain c then [c] else (utf8 c).flatMap escapeByte

/-- An address with every character encoded that does not stand for itself. -/
def encode : List Char → List Char
  | '%' :: high :: low :: rest =>
      if (Text.hexDigit? high).isSome && (Text.hexDigit? low).isSome then
        '%' :: high :: low :: encode rest
      else
        encodeChar '%' ++ encode (high :: low :: rest)
  | c :: rest => encodeChar c ++ encode rest
  | [] => []

/-- A part of an encoded address. -/
inductive Piece where
  | char (c : Char)
  | byte (value : Nat)
  deriving DecidableEq, Repr

/-- The characters and the encoded bytes of an address. -/
def pieces : List Char → List Piece
  | '%' :: high :: low :: rest =>
      match Text.hexDigit? high, Text.hexDigit? low with
      | some first, some second => .byte (16 * first + second) :: pieces rest
      | _, _ => .char '%' :: pieces (high :: low :: rest)
  | c :: rest => .char c :: pieces rest
  | [] => []

/-- Whether a byte goes on with a character of several bytes. -/
def continues : Piece → Option Nat
  | .byte value => if 0x80 ≤ value && value < 0xC0 then some (value - 0x80) else none
  | .char _ => none

/-- The number of bytes behind a first byte of several, and the bits that the first one gives. -/
def leadByte (byte : Nat) : Nat × Nat :=
  if 0xC0 ≤ byte && byte < 0xE0 then (1, byte - 0xC0)
  else if 0xE0 ≤ byte && byte < 0xF0 then (2, byte - 0xE0)
  else if 0xF0 ≤ byte && byte < 0xF8 then (3, byte - 0xF0)
  else (0, 0)

/-- The least code point that needs a number of bytes behind the first one. -/
def leastCode : Nat → Nat
  | 1 => 0x80
  | 2 => 0x800
  | _ => 0x10000

/-- Characters that stay encoded, because they would change what an address means. -/
def isReserved (c : Char) : Bool :=
  ";/?:@&=+$,#%".toList.contains c

/-- The text of a byte and of those that belong to it, and the number of the latter. -/
def decodeByte (byte : Nat) (rest : List Piece) : List Char × Nat :=
  if byte < 0x80 then
    let c := Char.ofNat byte
    (if isReserved c then escapeByte byte else [c], 0)
  else
    let (count, bits) := leadByte byte
    let tail := (rest.take count).filterMap continues
    if count = 0 || tail.length < count then ([replacement], 0)
    else
      let code := tail.foldl (fun code bits => 0x40 * code + bits) bits
      if leastCode count ≤ code && code.isValidChar then ([Char.ofNat code], count)
      else (List.replicate (count + 1) replacement, count)

/-- The text of the pieces behind the first `skip` ones. -/
def decodePieces : Nat → List Piece → List Char
  | _, [] => []
  | skip + 1, _ :: rest => decodePieces skip rest
  | 0, .char c :: rest => c :: decodePieces 0 rest
  | 0, .byte value :: rest =>
      let (text, skip) := decodeByte value rest
      text ++ decodePieces skip rest

/-- An address with its encoded characters shown as themselves. -/
def decode (chars : List Char) : List Char :=
  decodePieces 0 (pieces chars)

end Url
end CardPress
