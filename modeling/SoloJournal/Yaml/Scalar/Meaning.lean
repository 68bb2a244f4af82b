import SoloJournal.Number.Decimal
import SoloJournal.Number.Digit
import SoloJournal.Yaml.Value

/-!
# What a plain scalar means

A plain scalar may be the spelling of null, of a truth value or of a number;
every other one is a text.  Whole numbers may be written in four bases.  They
must fit into 64 bits, with a sign or without: between that and 128 bits they
are refused, and beyond they are read as floating-point numbers.
-/

namespace SoloJournal.Yaml

def isNull (text : String) : Bool :=
  ["null", "Null", "NULL", "~"].contains text

def truth? (text : String) : Option Bool :=
  if ["true", "True", "TRUE"].contains text then some true
  else if ["false", "False", "FALSE"].contains text then some false
  else none

/-! ## Whole numbers -/

/-- The value of one more digit after some digits of a number. -/
def pushDigit (base value : Nat) (char : Char) : Option Nat := do
  let digit ← hexValue? char
  if digit < base then some (value * base + digit) else none

/-- The value of a nonempty sequence of digits. -/
def natInBase? (base : Nat) (chars : List Char) : Option Nat :=
  if chars.isEmpty then none else chars.foldlM (pushDigit base) 0

/-- Whether the characters are digits with a needless zero at the front. -/
def hasNeedlessZero (chars : List Char) : Bool :=
  chars.head? == some '0' && chars.length != 1 && chars.all Char.isDigit

/-- A whole number without its sign. -/
def magnitude? (chars : List Char) : Option Nat :=
  match chars with
  | '0' :: 'x' :: digits => natInBase? 16 digits
  | '0' :: 'o' :: digits => natInBase? 8 digits
  | '0' :: 'b' :: digits => natInBase? 2 digits
  | digits => if hasNeedlessZero digits then none else natInBase? 10 digits

/-- The whole number that the characters spell. -/
def wholeNumber? : List Char → Option Int
  | '-' :: chars => (magnitude? chars).map (fun number => -Int.ofNat number)
  | '+' :: chars => (magnitude? chars).map Int.ofNat
  | chars => (magnitude? chars).map Int.ofNat

/-- Whether a number can be held in so many bits, with a sign if it is
negative and without one otherwise. -/
def fitsBits (bits : Nat) (number : Int) : Bool :=
  -Int.pow 2 (bits - 1) ≤ number && number < Int.pow 2 bits

/-! ## Floating-point numbers -/

/-- The exponent at the end of a number; nothing means zero. -/
def exponent? : List Char → Option Int
  | [] => some 0
  | mark :: chars => if mark = 'e' ∨ mark = 'E' then Decimal.intOf? chars else none

/-- The number that digits with a point and an exponent spell. -/
def unsignedFloat? (negative : Bool) (chars : List Char) : Option Binary64 := do
  let whole := chars.takeWhile Char.isDigit
  let rest := chars.dropWhile Char.isDigit
  let (fraction, rest) := match rest with
    | '.' :: rest => (rest.takeWhile Char.isDigit, rest.dropWhile Char.isDigit)
    | rest => ([], rest)
  let exponent ← exponent? rest
  let digits ← Decimal.natOf? (whole ++ fraction)
  return .ofDecimal negative digits (exponent - fraction.length)

/-- The finite number that decimal digits spell, after an optional sign. -/
def finiteFloat? (chars : List Char) : Option Binary64 :=
  let number? := match chars with
    | '-' :: digits => unsignedFloat? true digits
    | '+' :: digits => unsignedFloat? false digits
    | digits => unsignedFloat? false digits
  number?.filter Binary64.isFinite

/-- The floating-point number that a text spells. -/
def float? (text : String) : Option Binary64 :=
  if [".inf", ".Inf", ".INF", "+.inf", "+.Inf", "+.INF"].contains text then
    some (.infinity false)
  else if ["-.inf", "-.Inf", "-.INF"].contains text then some (.infinity true)
  else if [".nan", ".NaN", ".NAN"].contains text then some .nan
  else finiteFloat? text.toList

/-! ## Scalars -/

/-- Whether a text is a sequence of digits, after an optional sign, that is no
number for its needless zero. -/
def isZeroLedText (text : String) : Bool :=
  match text.toList with
  | '-' :: chars => hasNeedlessZero chars
  | '+' :: chars => hasNeedlessZero chars
  | chars => hasNeedlessZero chars

namespace Value

/-- The number or text that a plain scalar means which is no whole number. -/
def floatOrText (text : String) : Value :=
  if isZeroLedText text then .string text
  else
    match float? text with
    | some number => .float number
    | none => .string text

/-- What a plain scalar means; nothing if it is a number that is refused. -/
def ofPlain? (text : String) : Option Value :=
  if text.isEmpty || isNull text then some .null
  else
    match truth? text with
    | some truth => some (.bool truth)
    | none =>
      match wholeNumber? text.toList with
      | some number =>
        if fitsBits 64 number then some (.int number)
        else if fitsBits 128 number then none
        else some (floatOrText text)
      | none => some (floatOrText text)

/-- What a text means that must be a whole number. -/
def ofWholeNumber? (text : String) : Option Value := do
  let number ← wholeNumber? text.toList
  if fitsBits 64 number then some (.int number) else none

end Value

end SoloJournal.Yaml
