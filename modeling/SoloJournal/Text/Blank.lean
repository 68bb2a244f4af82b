/-!
# Blank characters and letter case

Keys, commands and notes are compared and cut with respect to two rules: a
character is blank when Unicode gives it the property `White_Space`, and case
is ignored for the letters of ASCII only.
-/

namespace SoloJournal.Text

/-- The characters with the Unicode property `White_Space`. -/
def isBlank (char : Char) : Bool :=
  let code := char.toNat
  (0x09 ≤ code && code ≤ 0x0D) || code == 0x20 || code == 0x85 || code == 0xA0
    || code == 0x1680 || (0x2000 ≤ code && code ≤ 0x200A) || code == 0x2028
    || code == 0x2029 || code == 0x202F || code == 0x205F || code == 0x3000

/-- Drops the blanks at both ends. -/
def trimChars (chars : List Char) : List Char :=
  ((chars.dropWhile isBlank).reverse.dropWhile isBlank).reverse

def trim (text : String) : String :=
  String.ofList (trimChars text.toList)

/-- Lowers the letters of ASCII and keeps every other character. -/
def foldCase (chars : List Char) : List Char :=
  chars.map Char.toLower

/-- Equality up to the case of ASCII letters. -/
def sameIgnoringCase (left right : String) : Bool :=
  foldCase left.toList == foldCase right.toList

/-- A line cut at its first blank: the word before it and everything after it. -/
def cutAtBlank (chars : List Char) : List Char × List Char :=
  (chars.takeWhile (fun char => !isBlank char),
    (chars.dropWhile (fun char => !isBlank char)).drop 1)

end SoloJournal.Text
