import SoloJournal.Number.Digit
import SoloJournal.Yaml.Cursor
import SoloJournal.Yaml.Token

/-!
# Tags, anchors and directives

The tokens that begin with a mark and are spelled in the characters of names
and addresses.  A percent sign in an address stands before two hexadecimal
digits of a byte; such bytes must be put together like those of UTF-8.
-/

namespace SoloJournal.Yaml

/-- The characters of addresses, besides those of names. -/
def isAddressMark (char : Char) : Bool :=
  ";/?:@&=+$.%!~*'()".toList.contains char

def isAddressChar (verbatim : Bool) (char : Char) : Bool :=
  isWordChar char || isAddressMark char
    || (verbatim && (char == ',' || char == '[' || char == ']'))

/-- How many bytes a character has in UTF-8 whose first byte is given. -/
def sequenceWidth? (byte : UInt8) : Option Nat :=
  if byte < 0x80 then some 1
  else if 0xC0 ≤ byte ∧ byte < 0xE0 then some 2
  else if 0xE0 ≤ byte ∧ byte < 0xF0 then some 3
  else if 0xF0 ≤ byte ∧ byte < 0xF8 then some 4
  else none

/-- The bytes that the characters of an address spell.  `missing` says how many
bytes the current character still lacks. -/
def addressBytes : (missing : Nat) → List Char → Option (List UInt8)
  | 0, [] => some []
  | _ + 1, [] => none
  | missing, '%' :: high :: low :: rest => do
    let high ← hexValue? high
    let low ← hexValue? low
    let byte := UInt8.ofNat (high * 16 + low)
    let missing ←
      match missing with
      | 0 => (sequenceWidth? byte).map (fun width => width - 1)
      | missing + 1 => if 0x80 ≤ byte ∧ byte < 0xC0 then some missing else none
    let later ← addressBytes missing rest
    return byte :: later
  | 0, char :: rest =>
    if char = '%' then none
    else (addressBytes 0 rest).map (fun later => UInt8.ofNat char.toNat :: later)
  | _ + 1, _ :: _ => none

/-- Reads the address at a place. -/
def readAddress (verbatim : Bool) (cursor : Cursor) : Option (List UInt8 × Cursor) := do
  let (chars, cursor) := cursor.takeWhile (isAddressChar verbatim)
  let bytes ← addressBytes 0 chars
  return (bytes, cursor)

def charBytes (chars : List Char) : List UInt8 :=
  chars.map (fun char => UInt8.ofNat char.toNat)

/-- Reads a tag handle: an exclamation mark, the characters of a name, and
perhaps another exclamation mark.  Gives the characters before the last part,
and whether that part is there. -/
def readHandle (cursor : Cursor) : Option (List Char × Bool × Cursor) :=
  if cursor.rest.head? = some '!' then
    let (name, cursor) := (cursor.forward 1).takeWhile isWordChar
    if cursor.rest.head? = some '!' then some (name, true, cursor.forward 1)
    else some (name, false, cursor)
  else none

/-- Reads a tag.  A tag without a handle of its own has the handle `!`, and the
mark alone and a verbatim tag have none. -/
def readTag (flow : Bool) (cursor : Cursor) : Option (Token × Cursor) := do
  let (token, cursor) ←
    match cursor.rest with
    | '!' :: '<' :: _ => do
      let (bytes, cursor) ← readAddress true (cursor.forward 2)
      if bytes ≠ [] ∧ cursor.rest.head? = some '>' then
        some (Token.tag "" bytes, cursor.forward 1)
      else none
    | _ => do
      let (name, closed, cursor) ← readHandle cursor
      let (bytes, cursor) ← readAddress false cursor
      if closed then
        if bytes = [] then none
        else some (.tag (String.ofList ('!' :: name ++ ['!'])) bytes, cursor)
      else if name = [] ∧ bytes = [] then some (.tag "" [0x21], cursor)
      else some (.tag "!" (charBytes name ++ bytes), cursor)
  if atGap cursor.rest || (flow && cursor.rest.head? = some ',') then some (token, cursor)
  else none

/-- The characters that may follow the name of an anchor without a gap. -/
def endsName : List Char → Bool
  | [] => true
  | char :: rest => atGap (char :: rest) || "?:,]\x7d%@\x60".toList.contains char

/-- Reads the name of an anchor or an alias after its mark. -/
def readName (cursor : Cursor) : Option (String × Cursor) :=
  let (name, cursor) := (cursor.forward 1).takeWhile isWordChar
  if name ≠ [] ∧ endsName cursor.rest then some (String.ofList name, cursor) else none

/-- Reads a number of at most nine digits. -/
def readVersionPart (cursor : Cursor) : Option (Nat × Cursor) :=
  let (digits, cursor) := cursor.takeWhile Char.isDigit
  if digits ≠ [] ∧ digits.length ≤ 9 then some (Nat.ofDigitChars 10 digits 0, cursor)
  else none

def readVersion (cursor : Cursor) : Option (Token × Cursor) := do
  let (major, cursor) ← readVersionPart cursor.afterBlanks
  if cursor.rest.head? = some '.' then
    let (minor, cursor) ← readVersionPart (cursor.forward 1)
    return (.version major minor, cursor)
  else none

/-- Reads the handle and the address that it stands for. -/
def readTagPrefix (cursor : Cursor) : Option (Token × Cursor) := do
  let (name, closed, cursor) ← readHandle cursor.afterBlanks
  if !closed && name ≠ [] then none
  else
    let handle := String.ofList ('!' :: name ++ if closed then ['!'] else [])
    match cursor.rest with
    | char :: _ =>
      if isBlank char then
        let (bytes, cursor) ← readAddress true cursor.afterBlanks
        if bytes ≠ [] ∧ atGap cursor.rest then
          return (.tagPrefix handle bytes, cursor)
        else none
      else none
    | [] => none

/-- Reads a directive with the rest of its line. -/
def readDirective (cursor : Cursor) : Option (Token × Cursor) := do
  let (name, cursor) := (cursor.forward 1).takeWhile isWordChar
  if !atGap cursor.rest then none
  else
    let (token, cursor) ←
      if name = "YAML".toList then readVersion cursor
      else if name = "TAG".toList then readTagPrefix cursor
      else none
    return (token, ← cursor.afterLine?)

end SoloJournal.Yaml
