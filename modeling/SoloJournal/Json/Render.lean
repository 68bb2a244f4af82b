import SoloJournal.Json.Basic
import SoloJournal.Number.Decimal

/-!
# Written JSON

A value is written compactly, without any blanks, or with every item and every
member on a line of its own, two blanks further in for each level.  In strings
only quotes, backslashes and control characters are escaped.
-/

namespace SoloJournal.Json

inductive Layout where
  | compact
  | indented
  deriving DecidableEq

/-- The digit of a number below sixteen. -/
def hexDigit (digit : Nat) : Char :=
  Nat.digitChar (digit % 16)

/-- A character as it stands in a string. -/
def escape (char : Char) : List Char :=
  if char = '"' then ['\\', '"']
  else if char = '\\' then ['\\', '\\']
  else if char = '\n' then ['\\', 'n']
  else if char = '\r' then ['\\', 'r']
  else if char = '\t' then ['\\', 't']
  else if char = '\x08' then ['\\', 'b']
  else if char = '\x0c' then ['\\', 'f']
  else if char.toNat < 0x20 then
    ['\\', 'u', '0', '0', hexDigit (char.toNat / 16), hexDigit char.toNat]
  else [char]

def quoted (text : String) : List Char :=
  '"' :: (text.toList.flatMap escape ++ ['"'])

/-- What separates an item from what stands before it, besides a comma. -/
def lineStart (layout : Layout) (depth : Nat) : List Char :=
  match layout with
  | .compact => []
  | .indented => '\n' :: List.replicate (2 * depth) ' '

def colon : Layout → List Char
  | .compact => [':']
  | .indented => [':', ' ']

/-- The characters of a text that is no Unicode text: half a surrogate pair. -/
def unpairedText : List Char :=
  "\"\\ud800\"".toList

/-- The name of a member. -/
def nameText : Option String → List Char
  | some name => quoted name
  | none => unpairedText

mutual

/-- The characters of a value that stands at a depth. -/
def chars (layout : Layout) (depth : Nat) : Json → List Char
  | .null => "null".toList
  | .bool value => (if value then "true" else "false").toList
  | .int value => Decimal.ofInt value
  | .decimal literal => literal.toList
  | .string text => quoted text
  | .unpaired => unpairedText
  | .array items => '[' :: (itemChars layout depth true items ++ [']'])
  | .object members => '{' :: (memberChars layout depth true members ++ ['}'])

def itemChars (layout : Layout) (depth : Nat) (first : Bool) : List Json → List Char
  | [] => if first then [] else lineStart layout depth
  | item :: items =>
    (if first then [] else [',']) ++ lineStart layout (depth + 1)
      ++ chars layout (depth + 1) item ++ itemChars layout depth false items

def memberChars (layout : Layout) (depth : Nat) (first : Bool) :
    List (Option String × Json) → List Char
  | [] => if first then [] else lineStart layout depth
  | (name, value) :: members =>
    (if first then [] else [',']) ++ lineStart layout (depth + 1)
      ++ nameText name ++ colon layout ++ chars layout (depth + 1) value
      ++ memberChars layout depth false members

end

/-- A value on one line, without blanks. -/
def compact (value : Json) : String :=
  String.ofList (chars .compact 0 value)

/-- A value with every item and member on its own line. -/
def indented (value : Json) : String :=
  String.ofList (chars .indented 0 value)

end SoloJournal.Json
