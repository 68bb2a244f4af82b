/-!
# Binary floating-point numbers

A 64-bit binary floating-point number is kept as its bits.  A ratio of natural
numbers is rounded to the nearest such number, a tie to the one whose last bit
is zero; decimal texts and quotients are both read by this one rule.  All the
arithmetic is exact arithmetic on natural numbers.
-/

namespace SoloJournal

/-- A binary64 number, given by its sign, exponent and fraction bits. -/
structure Binary64 where
  bits : UInt64
  deriving DecidableEq, Repr

namespace Binary64

def ofFields (negative : Bool) (magnitude : Nat) : Binary64 :=
  ⟨UInt64.ofNat (magnitude + if negative then Nat.pow 2 63 else 0)⟩

/-- Exponent and fraction bits together, without the sign. -/
def magnitude (number : Binary64) : Nat :=
  number.bits.toNat % Nat.pow 2 63

def isNegative (number : Binary64) : Bool :=
  number.bits.toNat / Nat.pow 2 63 == 1

def infinityMagnitude : Nat := 2047 * Nat.pow 2 52

def infinity (negative : Bool) : Binary64 :=
  ofFields negative infinityMagnitude

def nan : Binary64 :=
  ofFields false (infinityMagnitude + Nat.pow 2 51)

def isFinite (number : Binary64) : Bool :=
  number.magnitude < infinityMagnitude

def isNan (number : Binary64) : Bool :=
  infinityMagnitude < number.magnitude

/-- The quotient rounded to the nearest natural number, a tie to the even one. -/
def roundHalfEven (numerator denominator : Nat) : Nat :=
  let quotient := numerator / denominator
  let twice := 2 * (numerator % denominator)
  if twice < denominator then quotient
  else if denominator < twice then quotient + 1
  else quotient + quotient % 2

/-- `numerator / denominator` scaled by `2 ^ (-exponent)`, as a fraction. -/
def scaled (numerator denominator : Nat) (exponent : Int) : Nat × Nat :=
  match exponent with
  | .ofNat up => (numerator, denominator * Nat.pow 2 up)
  | .negSucc down => (numerator * Nat.pow 2 (down + 1), denominator)

/-- The exponent of the last bit of the number nearest to a positive ratio: the
one that leaves a significand of 53 bits, and no less than the exponent of the
smallest positive number. -/
def lastBitExponent (numerator denominator : Nat) : Int :=
  let guess : Int := (numerator.log2 : Int) - denominator.log2 - 52
  let (top, bottom) := scaled numerator denominator guess
  max (-1074) (if top / bottom < Nat.pow 2 52 then guess - 1 else guess)

/-- The number nearest to a ratio of natural numbers with a sign. -/
def ofRatio (negative : Bool) (numerator denominator : Nat) : Binary64 :=
  if numerator = 0 then ofFields negative 0
  else
    let exponent := lastBitExponent numerator denominator
    let (top, bottom) := scaled numerator denominator exponent
    let magnitude := (exponent + 1074).toNat * Nat.pow 2 52 + roundHalfEven top bottom
    ofFields negative (min magnitude infinityMagnitude)

/-- The number nearest to `digits * 10 ^ exponent` with a sign. -/
def ofDecimal (negative : Bool) (digits : Nat) (exponent : Int) : Binary64 :=
  let places : Int := exponent + (Nat.toDigits 10 digits).length
  if digits = 0 ∨ places < -400 then ofFields negative 0
  else if 400 < places then infinity negative
  else
    match exponent with
    | .ofNat up => ofRatio negative (digits * Nat.pow 10 up) 1
    | .negSucc down => ofRatio negative digits (Nat.pow 10 (down + 1))

/-- The absolute value of a finite number as a significand and the exponent of
two that multiplies it. -/
def significand (number : Binary64) : Nat × Int :=
  let field : Nat := number.magnitude / Nat.pow 2 52
  let fraction := number.magnitude % Nat.pow 2 52
  if field = 0 then (fraction, -1074) else (fraction + Nat.pow 2 52, Int.ofNat field - 1075)

/-- Equality of values: the two zeros are the same number, and so are all
texts of "not a number". -/
def sameValue (left right : Binary64) : Bool :=
  left == right || (left.isNan && right.isNan)
    || (left.magnitude == 0 && right.magnitude == 0)

end Binary64

end SoloJournal
