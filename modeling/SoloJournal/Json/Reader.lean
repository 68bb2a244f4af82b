import SoloJournal.Json.Basic
import SoloJournal.Number.Decimal
import SoloJournal.Number.Digit

/-!
# Reading JSON

A text is read character by character.  The reader keeps the collections that
are still open on a stack of its own, so a text may be nested to any depth.  A
text is one value with nothing but blanks around it.
-/

namespace SoloJournal.Json

/-- A collection that is not closed yet.  Its parts are held latest first. -/
inductive Frame where
  | array (items : List Json)
  | object (members : List (Option String × Json))
  /-- An object whose next member has its name but not yet its value. -/
  | member (members : List (Option String × Json)) (name : Option String)

/-- What may come next between two tokens. -/
inductive Expected where
  | value
  | valueOrClose
  | nameOrClose
  | name
  | colon
  /-- A comma, or the end of the innermost open collection. -/
  | next
  /-- Nothing but blanks: the whole value has been read. -/
  | nothing (value : Json)

/-- The characters of a string read so far, latest first. -/
structure StringPart where
  done : List Char
  /-- The first half of a surrogate pair, when the second half must follow. -/
  high : Option Nat
  /-- Whether some half of a surrogate pair has been left alone. -/
  unpaired : Bool

namespace StringPart

def empty : StringPart := { done := [], high := none, unpaired := false }

/-- Adds a character that is not half of a surrogate pair. -/
def push (char : Char) (part : StringPart) : StringPart :=
  { done := char :: part.done, high := none
    unpaired := part.unpaired || part.high.isSome }

/-- Adds a unit that was spelled with four digits. -/
def pushUnit (unit : Nat) (part : StringPart) : StringPart :=
  if 0xD800 ≤ unit ∧ unit < 0xDC00 then
    { part with high := some unit, unpaired := part.unpaired || part.high.isSome }
  else if 0xDC00 ≤ unit ∧ unit < 0xE000 then
    match part.high with
    | some high =>
      { part with
        done := Char.ofNat (0x10000 + (high - 0xD800) * 0x400 + (unit - 0xDC00)) :: part.done
        high := none }
    | none => { part with unpaired := true }
  else part.push (Char.ofNat unit)

/-- The text of the string, if it is one. -/
def text? (part : StringPart) : Option String :=
  if part.unpaired || part.high.isSome then none
  else some (String.ofList part.done.reverse)

end StringPart

/-- Where in an escape a string stands. -/
inductive Escape where
  | none
  | begun
  /-- After some of the four digits of a unit. -/
  | unit (digits : Nat) (value : Nat)

inductive Mode where
  | between (expected : Expected)
  | string (isName : Bool) (part : StringPart) (escape : Escape)
  /-- Within a number, whose characters are held latest first. -/
  | number (literal : List Char)
  /-- Within a word that stands for a value. -/
  | word (rest : List Char) (value : Json)

/-- The state of the reader between two characters. -/
structure Reader where
  stack : List Frame
  mode : Mode

/-- The digits at the front, and what follows them. -/
def spanDigits (chars : List Char) : List Char × List Char :=
  (chars.takeWhile Char.isDigit, chars.dropWhile Char.isDigit)

/-- Whether the characters are an exponent, or nothing. -/
def isExponent : List Char → Bool
  | [] => true
  | mark :: rest =>
    (mark == 'e' || mark == 'E')
      && (match rest with
        | '+' :: digits => !digits.isEmpty && digits.all Char.isDigit
        | '-' :: digits => !digits.isEmpty && digits.all Char.isDigit
        | digits => !digits.isEmpty && digits.all Char.isDigit)

/-- Whether the characters are a fraction and an exponent, or either of them. -/
def isTail : List Char → Bool
  | '.' :: rest => !(spanDigits rest).1.isEmpty && isExponent (spanDigits rest).2
  | rest => isExponent rest

/-- The number that the characters after the sign spell.  A whole number has
no needless zero before it, and zero itself is whole only without a sign. -/
def unsignedNumber? (negative : Bool) (literal digits : List Char) : Option Json :=
  match spanDigits digits with
  | ([], _) => none
  | (first :: more, rest) =>
    if first = '0' ∧ more ≠ [] then none
    else if rest = [] ∧ ¬(negative ∧ first = '0') then
      (Decimal.intOf? literal).map Json.int
    else if isTail rest then some (.decimal (String.ofList literal))
    else none

def number? (literal : List Char) : Option Json :=
  match literal with
  | '-' :: digits => unsignedNumber? true literal digits
  | digits => unsignedNumber? false literal digits

def isNumberChar (char : Char) : Bool :=
  char.isDigit || char == '-' || char == '+' || char == '.' || char == 'e' || char == 'E'

def isSpace (char : Char) : Bool :=
  char == ' ' || char == '\n' || char == '\t' || char == '\r'

namespace Reader

def start : Reader := { stack := [], mode := .between .value }

def expecting (stack : List Frame) (expected : Expected) : Reader :=
  { stack, mode := .between expected }

/-- Hands a finished value to the innermost open collection. -/
def complete (value : Json) : List Frame → Option Reader
  | [] => some (expecting [] (.nothing value))
  | .array items :: stack => some (expecting (.array (value :: items) :: stack) .next)
  | .member members name :: stack =>
    some (expecting (.object ((name, value) :: members) :: stack) .next)
  | .object _ :: _ => none

/-- Hands the name of a member to its object. -/
def completeName (name : Option String) : List Frame → Option Reader
  | .object members :: stack => some (expecting (.member members name :: stack) .colon)
  | _ => none

/-- Closes an array. -/
def closeArray : List Frame → Option Reader
  | .array items :: stack => complete (.array items.reverse) stack
  | _ => none

/-- Closes an object. -/
def closeObject : List Frame → Option Reader
  | .object members :: stack => complete (.object members.reverse) stack
  | _ => none

/-- The first character of a value. -/
def beginValue (stack : List Frame) (char : Char) : Option Reader :=
  if char = '"' then some { stack, mode := .string false .empty .none }
  else if char = '[' then some (expecting (.array [] :: stack) .valueOrClose)
  else if char = '{' then some (expecting (.object [] :: stack) .nameOrClose)
  else if char = 't' then some { stack, mode := .word "rue".toList (.bool true) }
  else if char = 'f' then some { stack, mode := .word "alse".toList (.bool false) }
  else if char = 'n' then some { stack, mode := .word "ull".toList .null }
  else if char = '-' ∨ char.isDigit then some { stack, mode := .number [char] }
  else none

def beginName (stack : List Frame) (char : Char) : Option Reader :=
  if char = '"' then some { stack, mode := .string true .empty .none } else none

/-- A comma, or the end of the innermost open collection. -/
def advance (stack : List Frame) (char : Char) : Option Reader :=
  match stack, char with
  | .array items :: rest, ',' => some (expecting (.array items :: rest) .value)
  | .object members :: rest, ',' => some (expecting (.object members :: rest) .name)
  | stack, ']' => closeArray stack
  | stack, '}' => closeObject stack
  | _, _ => none

/-- A character between two tokens. -/
def stepBetween (stack : List Frame) (expected : Expected) (char : Char) : Option Reader :=
  if isSpace char then some (expecting stack expected)
  else
    match expected with
    | .value => beginValue stack char
    | .valueOrClose => if char = ']' then closeArray stack else beginValue stack char
    | .nameOrClose => if char = '}' then closeObject stack else beginName stack char
    | .name => beginName stack char
    | .colon => if char = ':' then some (expecting stack .value) else none
    | .next => advance stack char
    | .nothing _ => none

/-- The end of a string. -/
def closeString (stack : List Frame) (isName : Bool) (part : StringPart) : Option Reader :=
  if isName then completeName part.text? stack
  else complete ((part.text?.map Json.string).getD .unpaired) stack

/-- The character that a short escape stands for. -/
def escaped? (char : Char) : Option Char :=
  match char with
  | '"' => some '"'
  | '\\' => some '\\'
  | '/' => some '/'
  | 'b' => some '\x08'
  | 'f' => some '\x0c'
  | 'n' => some '\n'
  | 'r' => some '\r'
  | 't' => some '\t'
  | _ => none

/-- A character within a string. -/
def stepString (stack : List Frame) (isName : Bool) (part : StringPart) (escape : Escape)
    (char : Char) : Option Reader :=
  match escape with
  | .none =>
    if char = '"' then closeString stack isName part
    else if char = '\\' then some { stack, mode := .string isName part .begun }
    else if char.toNat < 0x20 then none
    else some { stack, mode := .string isName (part.push char) .none }
  | .begun =>
    if char = 'u' then some { stack, mode := .string isName part (.unit 0 0) }
    else
      (escaped? char).map
        (fun meant => { stack, mode := .string isName (part.push meant) .none })
  | .unit digits value =>
    (hexValue? char).map
      (fun digit =>
        if digits = 3 then
          { stack, mode := .string isName (part.pushUnit (value * 16 + digit)) .none }
        else { stack, mode := .string isName part (.unit (digits + 1) (value * 16 + digit)) })

/-- The state after one more character. -/
def step (reader : Reader) (char : Char) : Option Reader :=
  match reader.mode with
  | .between expected => stepBetween reader.stack expected char
  | .string isName part escape => stepString reader.stack isName part escape char
  | .number literal =>
    if isNumberChar char then some { reader with mode := .number (char :: literal) }
    else do
      let value ← number? literal.reverse
      let reader ← complete value reader.stack
      match reader.mode with
      | .between expected => stepBetween reader.stack expected char
      | _ => none
  | .word [] value => do
    let reader ← complete value reader.stack
    match reader.mode with
    | .between expected => stepBetween reader.stack expected char
    | _ => none
  | .word (next :: rest) value =>
    if char = next then some { reader with mode := .word rest value } else none

/-- The value that has been read when the text ends. -/
def finish (reader : Reader) : Option Json :=
  match reader.mode, reader.stack with
  | .between (.nothing value), _ => some value
  | .number literal, [] => number? literal.reverse
  | .word [] value, [] => some value
  | _, _ => none

/-- The state after a sequence of characters. -/
def run (reader : Reader) (chars : List Char) : Option Reader :=
  chars.foldlM step reader

end Reader

/-- The value that a text spells. -/
def parse? (text : String) : Option Json :=
  (Reader.start.run text.toList).bind Reader.finish

end SoloJournal.Json
