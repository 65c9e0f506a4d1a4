/-!
# Numbers of the binary64 format

A finite number is an integer times a power of two.  Decimals and the results of arithmetic are
rounded to the nearest number of the format, and of two that are equally near to the one with the
even significand; everything is computed on exact integers.
-/

namespace CardPress

/-- A number of the binary64 format. -/
inductive Binary64 where
  | nan
  | infinite (negative : Bool)
  /-- The number `significand * 2 ^ exponent`, with its sign. -/
  | finite (negative : Bool) (significand : Nat) (exponent : Int)
  deriving DecidableEq, Repr, Inhabited

namespace Binary64

/-- The zero without a sign. -/
def zero : Binary64 :=
  finite false 0 (-1074)

/-- The integer nearest to a quotient, where a tie goes to the even one. -/
def roundQuotient (numerator denominator : Nat) : Nat :=
  let quotient := numerator / denominator
  let twice := 2 * (numerator % denominator)
  if twice < denominator then quotient
  else if denominator < twice then quotient + 1
  else if quotient % 2 = 0 then quotient
  else quotient + 1

/-- The power of two, or one when the exponent is negative. -/
def pow2 (exponent : Int) : Nat :=
  Nat.pow 2 exponent.toNat

/-- The power of ten, or one when the exponent is negative. -/
def pow10 (exponent : Int) : Nat :=
  Nat.pow 10 exponent.toNat

/-- The number nearest to a positive quotient with a sign. -/
def ofQuotient (negative : Bool) (numerator denominator : Nat) : Binary64 :=
  if numerator = 0 then finite negative 0 (-1074)
  else
    let guess : Int := (numerator.log2 : Int) - (denominator.log2 : Int) - 53
    let large := numerator * pow2 (-guess) / (denominator * pow2 guess) ≥ pow2 53
    let exponent := max (if large then guess + 1 else guess) (-1074)
    let significand :=
      roundQuotient (numerator * pow2 (-exponent)) (denominator * pow2 exponent)
    let (significand, exponent) :=
      if significand = pow2 53 then (pow2 52, exponent + 1) else (significand, exponent)
    if exponent > 971 then infinite negative else finite negative significand exponent

/-- The number nearest to `digits * 10 ^ exponent` with a sign. -/
def ofDecimal (negative : Bool) (digits : Nat) (exponent : Int) : Binary64 :=
  if digits = 0 then finite negative 0 (-1074)
  else if exponent > 400 then infinite negative
  else if exponent + (digits.log2 : Int) < -400 then finite negative 0 (-1074)
  else ofQuotient negative (digits * pow10 exponent) (pow10 (-exponent))

/-- The number nearest to an integer. -/
def ofInt (value : Int) : Binary64 :=
  ofQuotient (value < 0) value.natAbs 1

/-- The exact value of a finite number as a numerator and a positive denominator. -/
def fraction (negative : Bool) (significand : Nat) (exponent : Int) : Int × Nat :=
  let magnitude : Int := significand * pow2 exponent
  (if negative then -magnitude else magnitude, pow2 (-exponent))

/-- Change the sign. -/
def neg : Binary64 → Binary64
  | nan => nan
  | infinite negative => infinite (!negative)
  | finite negative significand exponent => finite (!negative) significand exponent

/-- The sum, rounded. -/
def add : Binary64 → Binary64 → Binary64
  | nan, _ => nan
  | _, nan => nan
  | infinite first, infinite second => if first = second then infinite first else nan
  | infinite negative, _ => infinite negative
  | _, infinite negative => infinite negative
  | finite s m e, finite s' m' e' =>
      if m = 0 ∧ m' = 0 then finite (s && s') 0 (-1074)
      else
        let (p, q) := fraction s m e
        let (p', q') := fraction s' m' e'
        let sum := p * q' + p' * q
        ofQuotient (sum < 0) sum.natAbs (q * q')

/-- The product, rounded. -/
def mul : Binary64 → Binary64 → Binary64
  | nan, _ => nan
  | _, nan => nan
  | infinite s, infinite s' => infinite (s != s')
  | infinite s, finite s' m _ => if m = 0 then nan else infinite (s != s')
  | finite s m _, infinite s' => if m = 0 then nan else infinite (s != s')
  | finite s m e, finite s' m' e' =>
      ofQuotient (s != s') (m * m' * pow2 (e + e')) (pow2 (-(e + e')))

/-- Whether two numbers are equal as numbers: zeros of either sign are, and `nan` never is. -/
def same : Binary64 → Binary64 → Bool
  | infinite s, infinite s' => s == s'
  | finite s m e, finite s' m' e' =>
      if m = 0 then m' == 0 else s == s' && m == m' && e == e'
  | _, _ => false

/-- Whether a number equals an integer. -/
def sameInt (value : Int) : Binary64 → Bool
  | finite s m e =>
      let (p, q) := fraction s m e
      p == value * q
  | _ => false

/-- Whether a number is zero, of either sign. -/
def isZero : Binary64 → Bool
  | finite _ m _ => m == 0
  | _ => false

end Binary64
end CardPress
