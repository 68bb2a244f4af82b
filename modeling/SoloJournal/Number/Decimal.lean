/-!
# Decimal text

Whole numbers are written with the fewest decimal digits and a minus sign when
they are negative.  Reading a sequence of digits gives its value, leading
zeros allowed; a sign may stand before it where the reader permits one.
-/

namespace SoloJournal.Decimal

/-- The decimal text of an integer. -/
def ofInt : Int → List Char
  | .ofNat number => Nat.toDigits 10 number
  | .negSucc number => '-' :: Nat.toDigits 10 (number + 1)

/-- The value of a nonempty sequence of decimal digits. -/
def natOf? (chars : List Char) : Option Nat :=
  if chars.isEmpty then none
  else if chars.all Char.isDigit then some (Nat.ofDigitChars 10 chars 0)
  else none

/-- The value of decimal digits after an optional plus sign. -/
def positiveOf? : List Char → Option Nat
  | '+' :: chars => natOf? chars
  | chars => natOf? chars

/-- The value of decimal digits after an optional single sign. -/
def intOf? : List Char → Option Int
  | '-' :: chars => (natOf? chars).map (fun number => -Int.ofNat number)
  | chars => (positiveOf? chars).map Int.ofNat

def natText (number : Nat) : String :=
  String.ofList (Nat.toDigits 10 number)

def intText (number : Int) : String :=
  String.ofList (ofInt number)

/-- The text of an integer with its sign always written. -/
def signedText (number : Int) : String :=
  if 0 ≤ number then String.ofList ('+' :: ofInt number) else intText number

theorem natOf?_toDigits (number : Nat) :
    natOf? (Nat.toDigits 10 number) = some number := by
  have digits : (Nat.toDigits 10 number).all Char.isDigit = true :=
    List.all_eq_true.2 fun _ member =>
      Nat.isDigit_of_mem_toDigits (by decide) (by decide) member
  simp [natOf?, Nat.toDigits_ne_nil, digits]

/-- Reading the text of an integer gives it back. -/
theorem intOf?_ofInt (number : Int) : intOf? (ofInt number) = some number := by
  cases number with
  | ofNat number =>
    have first : ∀ char rest, Nat.toDigits 10 number = char :: rest → char.isDigit = true :=
      fun char rest shape => Nat.isDigit_of_mem_toDigits (by decide) (by decide)
        (shape ▸ List.mem_cons_self)
    have read := natOf?_toDigits number
    unfold ofInt intOf? positiveOf?
    split
    · rename_i shape
      have := first _ _ shape
      simp at this
    · split
      · rename_i shape
        have := first _ _ shape
        simp at this
      · simp [read]
  | negSucc number =>
    simp [ofInt, intOf?, natOf?_toDigits]
    omega

end SoloJournal.Decimal
