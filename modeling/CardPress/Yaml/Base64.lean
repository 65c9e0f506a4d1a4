/-!
# Base64

Bytes written with sixty-four characters, four characters for three bytes.  Characters outside the
alphabet are skipped, and reading stops at the padding of a group.
-/

namespace CardPress
namespace Yaml
namespace Base64

/-- The value of a character of the alphabet. -/
def value? (c : Char) : Option Nat :=
  let code := c.toNat
  if 65 ≤ code ∧ code ≤ 90 then some (code - 65)
  else if 97 ≤ code ∧ code ≤ 122 then some (code - 71)
  else if 48 ≤ code ∧ code ≤ 57 then some (code + 4)
  else if c = '+' then some 62
  else if c = '/' then some 63
  else none

/-- Read on, where `phase` characters of a group have been read, `carry` holds the bits that are
left of them, and `pads` counts the padding since the last of them. -/
def decodeFrom (phase carry pads : Nat) : List Char → Option (List Nat)
  | [] => if phase = 0 then some [] else none
  | c :: rest =>
      if c = '=' then
        if 2 ≤ phase ∧ 4 ≤ phase + pads + 1 then some []
        else decodeFrom phase carry (if 2 ≤ phase then pads + 1 else pads) rest
      else
        match value? c with
        | none => decodeFrom phase carry pads rest
        | some value =>
            match phase with
            | 0 => decodeFrom 1 value 0 rest
            | 1 => (decodeFrom 2 (value % 16) 0 rest).map ((carry * 4 + value / 16) :: ·)
            | 2 => (decodeFrom 3 (value % 4) 0 rest).map ((carry * 16 + value / 4) :: ·)
            | _ => (decodeFrom 0 0 0 rest).map ((carry * 64 + value) :: ·)

/-- The bytes that a text stands for. -/
def decode? (chars : List Char) : Option (List Nat) :=
  decodeFrom 0 0 0 chars

end Base64
end Yaml
end CardPress
