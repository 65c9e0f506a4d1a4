import CardPress.Text.Quoted

/-!
# UTF-8

Texts as bytes.  Bytes that are not the shortest form of a character are refused, and the fault
tells where they stand.
-/

namespace CardPress
namespace Text

/-- Why bytes are not a text. -/
inductive Utf8Reason where
  | startByte
  | continuationByte
  | truncated
  deriving DecidableEq, Repr

/-- A sequence of bytes that is not a character. -/
structure Utf8Fault where
  /-- The position of the first byte. -/
  position : Nat
  /-- The first byte. -/
  byte : UInt8
  /-- The number of bytes. -/
  length : Nat
  reason : Utf8Reason
  deriving DecidableEq, Repr

/-- The description of a reason. -/
def Utf8Reason.text : Utf8Reason → String
  | startByte => "invalid start byte"
  | continuationByte => "invalid continuation byte"
  | truncated => "unexpected end of data"

/-- The report of bytes that are not a text. -/
def Utf8Fault.message (fault : Utf8Fault) : String :=
  let place :=
    if fault.length = 1 then
      "byte 0x" ++ String.ofList (hex 2 fault.byte.toNat) ++ " in position " ++
        toString fault.position
    else
      "bytes in position " ++ toString fault.position ++ "-" ++
        toString (fault.position + fault.length - 1)
  "'utf-8' codec can't decode " ++ place ++ ": " ++ fault.reason.text

/-- The number of bytes behind a first byte, and the bounds of the one directly behind it. -/
def utf8Shape? (byte : Nat) : Option (Nat × Nat × Nat) :=
  if byte < 0xC2 then none
  else if byte < 0xE0 then some (1, 0x80, 0xBF)
  else if byte = 0xE0 then some (2, 0xA0, 0xBF)
  else if byte = 0xED then some (2, 0x80, 0x9F)
  else if byte < 0xF0 then some (2, 0x80, 0xBF)
  else if byte = 0xF0 then some (3, 0x90, 0xBF)
  else if byte < 0xF4 then some (3, 0x80, 0xBF)
  else if byte = 0xF4 then some (3, 0x80, 0x8F)
  else none

/-- The bits of a first byte of several. -/
def leadBits (byte : Nat) : Nat :=
  if byte < 0xE0 then byte % 0x20 else if byte < 0xF0 then byte % 0x10 else byte % 0x08

/-- The characters of bytes.  The first `open` bytes still belong to a character whose bits so far
are `bits`, which started `passed` bytes earlier with `first`; the next one lies between `low` and
`high`. -/
def decodeUtf8From (position : Nat) : (pending : Option (UInt8 × Nat × Nat × Nat × Nat × Nat)) →
    List UInt8 → Except Utf8Fault (List Char)
  | none, [] => .ok []
  | some (first, passed, _), [] =>
      .error {
        position := position - passed
        byte := first
        length := passed
        reason := .truncated }
  | none, byte :: rest =>
      let code := byte.toNat
      if code < 0x80 then do
        return Char.ofNat code :: (← decodeUtf8From (position + 1) none rest)
      else
        match utf8Shape? code with
        | some (count, low, high) =>
            decodeUtf8From (position + 1) (some (byte, 1, count, leadBits code, low, high)) rest
        | none =>
            .error {
              position
              byte
              length := 1
              reason := .startByte }
  | some (first, passed, count, bits, low, high), byte :: rest =>
      let code := byte.toNat
      if code < low || high < code then
        .error {
          position := position - passed
          byte := first
          length := passed
          reason := .continuationByte }
      else
        let bits := 0x40 * bits + code % 0x40
        if count = 1 then do
          return Char.ofNat bits :: (← decodeUtf8From (position + 1) none rest)
        else
          decodeUtf8From (position + 1) (some (first, passed + 1, count - 1, bits, 0x80, 0xBF)) rest

/-- The text of bytes. -/
def decodeUtf8 (bytes : List UInt8) : Except Utf8Fault String := do
  return String.ofList (← decodeUtf8From 0 none bytes)

/-- The bytes of a text. -/
def encodeUtf8 (text : String) : List UInt8 :=
  text.toUTF8.toList

end Text
end CardPress
