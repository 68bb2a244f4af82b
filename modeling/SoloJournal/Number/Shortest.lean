import SoloJournal.Number.Binary64
import SoloJournal.Number.Decimal

/-!
# Shortest decimal digits

The decimal digits of a finite binary64 number are the fewest that read back
as the same number, and of those the nearest to its value.  Two texts are made
of them: one that never uses an exponent, and one that does for very large and
very small numbers.
-/

namespace SoloJournal.Binary64

/-- Decimal digits and the power of ten of the last of them. -/
structure Shortest where
  digits : Nat
  scale : Int

/-- Whether `left * 10 ^ scale ≤ right * 2 ^ exponent`, with `≤` weakened to
`<` unless `closed`. -/
def decimalBelow (left : Nat) (scale : Int) (right : Nat) (exponent : Int)
    (closed : Bool) : Bool :=
  let leftSide := left * Nat.pow 10 scale.toNat * Nat.pow 2 (-exponent).toNat
  let rightSide := right * Nat.pow 2 exponent.toNat * Nat.pow 10 (-scale).toNat
  leftSide < rightSide || (closed && leftSide == rightSide)

/-- The same comparison the other way round. -/
def decimalAbove (left : Nat) (scale : Int) (right : Nat) (exponent : Int)
    (closed : Bool) : Bool :=
  !decimalBelow left scale right exponent (!closed)

/-- Whether a decimal number reads back as `number`: it lies between the
midpoints to the neighbours, which count when the significand is even. -/
def readsBack (number : Binary64) (digits : Nat) (scale : Int) : Bool :=
  let (bits, exponent) := number.significand
  let low := if bits = Nat.pow 2 52 ∧ -1074 < exponent then 4 * bits - 1 else 4 * bits - 2
  let closed := bits % 2 == 0
  decimalAbove digits scale low (exponent - 2) closed
    && decimalBelow digits scale (4 * bits + 2) (exponent - 2) closed

/-- How many decimal digits stand before the point of a positive finite
number, negative for zeros after the point. -/
def wholeDigits (number : Binary64) : Int :=
  let (bits, exponent) := number.significand
  let raised := bits * Nat.pow 2 exponent.toNat * Nat.pow 10 400 / Nat.pow 2 (-exponent).toNat
  ((Nat.toDigits 10 raised).length : Int) - 400

/-- The better of the two multiples of `10 ^ scale` around the number, if one
of them reads back. -/
def onGrid (number : Binary64) (scale : Int) : Option Nat :=
  let (bits, exponent) := number.significand
  let top := bits * Nat.pow 2 exponent.toNat * Nat.pow 10 (-scale).toNat
  let bottom := Nat.pow 2 (-exponent).toNat * Nat.pow 10 scale.toNat
  let below := top / bottom
  let nearest := roundHalfEven top bottom
  let other := if nearest = below then below + 1 else below
  if number.readsBack nearest scale then some nearest
  else if number.readsBack other scale then some other
  else none

/-- The shortest digits among those with `count` digits or more. -/
def shortestFrom (number : Binary64) (whole : Int) (count : Nat) : Nat → Shortest
  | 0 => ⟨(number.onGrid (whole - count)).getD 0, whole - count⟩
  | more + 1 =>
    match number.onGrid (whole - count) with
    | some digits => ⟨digits, whole - count⟩
    | none => number.shortestFrom whole (count + 1) more

/-- Moves zeros at the end of the digits into the power of ten. -/
def withoutZeros (fuel : Nat) (shortest : Shortest) : Shortest :=
  match fuel with
  | 0 => shortest
  | fuel + 1 =>
    if shortest.digits ≠ 0 ∧ shortest.digits % 10 = 0 then
      withoutZeros fuel ⟨shortest.digits / 10, shortest.scale + 1⟩
    else shortest

/-- The shortest digits of a finite number; zero has the one digit `0`. -/
def shortest (number : Binary64) : Shortest :=
  if number.magnitude = 0 then ⟨0, 0⟩
  else withoutZeros 20 (number.shortestFrom number.wholeDigits 1 16)

/-- Digits with a point, never an exponent; a whole number gets `.0`. -/
def pointText (shortest : Shortest) : List Char :=
  let digits := Nat.toDigits 10 shortest.digits
  let whole : Int := digits.length + shortest.scale
  if 0 ≤ shortest.scale then
    digits ++ List.replicate shortest.scale.toNat '0' ++ ['.', '0']
  else if 0 < whole then
    digits.take whole.toNat ++ ['.'] ++ digits.drop whole.toNat
  else
    ['0', '.'] ++ List.replicate (-whole).toNat '0' ++ digits

/-- Digits with an exponent; the point follows the first digit if more follow. -/
def exponentText (shortest : Shortest) : List Char :=
  let digits := Nat.toDigits 10 shortest.digits
  let exponent : Int := digits.length + shortest.scale - 1
  digits.take 1 ++ (if digits.length = 1 then [] else '.' :: digits.drop 1)
    ++ ['e'] ++ Decimal.ofInt exponent

def signed (number : Binary64) (text : List Char) : String :=
  String.ofList (if number.isNegative then '-' :: text else text)

/-- The text without exponents.  Infinities are `inf`, and what is not a
number is `NaN`. -/
def plainText (number : Binary64) : String :=
  if number.isNan then "NaN"
  else if number.isFinite then number.signed (pointText number.shortest)
  else number.signed "inf".toList

/-- The text of a number in a document: positional from five zeros after the
point up to sixteen digits before it, with an exponent outside. -/
def documentText (number : Binary64) : String :=
  if number.isNan then ".nan"
  else if number.isFinite then
    let shortest := number.shortest
    let whole : Int := (Nat.toDigits 10 shortest.digits).length + shortest.scale
    number.signed (if -5 < whole ∧ whole ≤ 16 then pointText shortest
      else exponentText shortest)
  else number.signed ".inf".toList

end SoloJournal.Binary64
