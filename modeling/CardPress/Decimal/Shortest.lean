import CardPress.Decimal.Binary64

/-!
# The shortest decimal

The text of a binary64 number has the fewest digits that read back as the same number, and of
those the ones nearest to it.  Numbers from a ten-thousandth up to ten to the sixteenth are written
in positions, all others with an exponent of at least two digits.
-/

namespace CardPress
namespace Binary64

/-- A decimal number: `digits * 10 ^ exponent`. -/
structure Decimal where
  digits : Nat
  exponent : Int
  deriving DecidableEq, Repr, Inhabited

/-- Numerator and denominator of `value * 2 ^ binary / 10 ^ decimal`. -/
def scaled (value : Nat) (binary decimal : Int) : Nat × Nat :=
  (value * pow2 binary * pow10 (-decimal), pow2 (-binary) * pow10 decimal)

/-- Whether `10 ^ power ≤ significand * 2 ^ exponent`. -/
def reaches (significand : Nat) (exponent power : Int) : Bool :=
  let (numerator, denominator) := scaled significand exponent power
  denominator ≤ numerator

/-- The position of the leading decimal digit of a positive number. -/
def leadingPower (significand : Nat) (exponent : Int) : Int :=
  let guess := ((significand.log2 + exponent) * 30103).fdiv 100000
  if reaches significand exponent (guess + 1) then guess + 1
  else if reaches significand exponent guess then guess
  else guess - 1

/-- The decimal with `count` digits that reads back as a positive number, when there is one. -/
def candidate? (significand : Nat) (exponent : Int) (count : Nat) : Option Decimal :=
  let power := leadingPower significand exponent - (count : Int) + 1
  let least := significand = pow2 52 ∧ exponent > -1074
  let lowGap := if least then 1 else 2
  let (numerator, denominator) := scaled 1 (exponent - 2) power
  let value := 4 * significand * numerator
  let low := (4 * significand - lowGap) * numerator
  let high := (4 * significand + 2) * numerator
  let inside (digits : Nat) : Bool :=
    let point := digits * denominator
    if significand % 2 = 0 then low ≤ point && point ≤ high else low < point && point < high
  let below := value / denominator
  let above := below + 1
  let toBelow := value - below * denominator
  let toAbove := above * denominator - value
  let preferBelow := toBelow < toAbove || (toBelow == toAbove && below % 2 == 0)
  match inside below, inside above with
  | true, true => some ⟨if preferBelow then below else above, power⟩
  | true, false => some ⟨below, power⟩
  | false, true => some ⟨above, power⟩
  | false, false => none

/-- The first candidate at or above a digit count; seventeen digits always suffice. -/
def shortestFrom (significand : Nat) (exponent : Int) : Nat → Nat → Decimal
  | 0, count => (candidate? significand exponent count).getD ⟨significand, 0⟩
  | fuel + 1, count =>
      match candidate? significand exponent count with
      | some decimal => decimal
      | none => shortestFrom significand exponent fuel (count + 1)

/-- The shortest decimal that reads back as a positive number. -/
def shortest (significand : Nat) (exponent : Int) : Decimal :=
  shortestFrom significand exponent 16 1

/-- The digits of a decimal without zeros at the end, and the position of its point. -/
def Decimal.point (decimal : Decimal) : List Char × Int :=
  let digits := Nat.toDigits 10 decimal.digits
  let kept := (digits.reverse.dropWhile (· = '0')).reverse
  (kept, decimal.exponent + digits.length)

/-- How decimals are written. -/
structure Format where
  /-- Least position of the point that is written in positions. -/
  least : Int
  /-- Greatest position of the point that is written in positions. -/
  greatest : Int
  /-- Least number of digits of an exponent. -/
  exponentDigits : Nat

/-- Values are written in positions from `0.0001` up to sixteen digits before the point. -/
def format : Format :=
  { least := -3
    greatest := 16
    exponentDigits := 2 }

/-- Digits with a point after `point` of them, or with an exponent when it lies too far away. -/
def Format.write (format : Format) (digits : List Char) (point : Int) : List Char :=
  if format.least ≤ point ∧ point ≤ format.greatest then
    if point ≤ 0 then
      ['0', '.'] ++ List.replicate (-point).toNat '0' ++ digits
    else
      let whole := digits.take point.toNat
      let fraction := digits.drop point.toNat
      whole ++ List.replicate (point.toNat - whole.length) '0' ++ ['.'] ++
        (if fraction.isEmpty then ['0'] else fraction)
  else
    let power := Nat.toDigits 10 (point - 1).natAbs
    digits.take 1 ++ (if digits.length > 1 then '.' :: digits.drop 1 else []) ++
      ['e', if point - 1 < 0 then '-' else '+'] ++
      List.replicate (format.exponentDigits - power.length) '0' ++ power

/-- The text of a number. -/
def text : Binary64 → String
  | nan => "nan"
  | infinite negative => if negative then "-inf" else "inf"
  | finite negative significand exponent =>
      let magnitude :=
        if significand = 0 then ['0', '.', '0']
        else
          let (digits, point) := (shortest significand exponent).point
          format.write digits point
      String.ofList (if negative then '-' :: magnitude else magnitude)

end Binary64
end CardPress
