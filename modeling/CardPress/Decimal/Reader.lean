import CardPress.Decimal.Binary64
import CardPress.Text.Blank
import CardPress.Text.Digits

/-!
# Reading numbers

Integers and decimals as they may be written in a scalar: blanks around the number are ignored, a
sign may stand in front, and digits of every script count.
-/

namespace CardPress
namespace Decimal

/-- The value of a digit of a base up to sixteen. -/
def digitOf? (base : Nat) (c : Char) : Option Nat :=
  let value? :=
    match Text.digitValue? c with
    | some value => some value
    | none =>
        let code := c.toNat
        if 97 ≤ code ∧ code ≤ 122 then some (code - 87)
        else if 65 ≤ code ∧ code ≤ 90 then some (code - 55)
        else none
  value?.filter (· < base)

/-- The number that digits of a base stand for; there must be at least one. -/
def natural? (base : Nat) (chars : List Char) : Option Nat :=
  if chars.isEmpty then none
  else chars.foldlM (fun value c => (digitOf? base c).map (value * base + ·)) 0

/-- The letters that may mark a base behind a zero. -/
def baseLetters : Nat → List Char
  | 2 => ['b', 'B']
  | 8 => ['o', 'O']
  | 16 => ['x', 'X']
  | _ => []

/-- Drop the mark of a base. -/
def dropBase (base : Nat) : List Char → List Char
  | '0' :: letter :: rest =>
      if (baseLetters base).contains letter then rest else '0' :: letter :: rest
  | chars => chars

/-- A sign in front of a number, and the rest. -/
def splitSign : List Char → Bool × List Char
  | '-' :: rest => (true, rest)
  | '+' :: rest => (false, rest)
  | chars => (false, chars)

/-- The integer that a text stands for in a base. -/
def integer? (base : Nat) (chars : List Char) : Option Int :=
  let (negative, rest) := splitSign (Text.trim chars)
  (natural? base (dropBase base rest)).map fun value => if negative then -(value : Int) else value

/-- The digits at the front of a text, with their values, and what follows them. -/
def spanDigits : List Char → List Nat × List Char
  | [] => ([], [])
  | c :: rest =>
      match Text.digitValue? c with
      | some value =>
          let (values, rest) := spanDigits rest
          (value :: values, rest)
      | none => ([], c :: rest)

/-- The number that a list of decimal digits stands for. -/
def ofDigits (values : List Nat) : Nat :=
  values.foldl (fun total value => total * 10 + value) 0

/-- The exponent at the end of a decimal; none is the exponent zero. -/
def exponent? (chars : List Char) : Option Int :=
  match chars with
  | [] => some 0
  | letter :: rest =>
      if letter = 'e' ∨ letter = 'E' then
        let (negative, rest) := splitSign rest
        match spanDigits rest with
        | ([], _) => none
        | (values, []) => some (if negative then -(ofDigits values : Int) else ofDigits values)
        | _ => none
      else
        none

/-- The digits after a point, when there is one, and what follows them. -/
def splitFraction : List Char → List Nat × List Char
  | '.' :: rest => spanDigits rest
  | chars => ([], chars)

/-- The words for values that have no digits. -/
def special? (negative : Bool) (chars : List Char) : Option Binary64 :=
  let word := String.ofList (chars.map Char.toLower)
  if word = "inf" ∨ word = "infinity" then some (.infinite negative)
  else if word = "nan" then some .nan
  else none

/-- The number nearest to the decimal that a text stands for. -/
def real? (chars : List Char) : Option Binary64 :=
  let (negative, rest) := splitSign (Text.trim chars)
  match special? negative rest with
  | some value => some value
  | none =>
      let (whole, rest) := spanDigits rest
      let (fraction, rest) := splitFraction rest
      if whole.isEmpty && fraction.isEmpty then none
      else
        (exponent? rest).map fun exponent =>
          .ofDecimal negative (ofDigits (whole ++ fraction)) (exponent - fraction.length)

end Decimal
end CardPress
