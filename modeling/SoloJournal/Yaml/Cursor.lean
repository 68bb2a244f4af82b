/-!
# Places in a YAML text

The characters of a text, the breaks between its lines, and a place in it.
Before it is read, a text is checked for characters that YAML does not allow,
and every break becomes a single character.
-/

namespace SoloJournal.Yaml

/-- The characters that may stand in a text. -/
def isAllowed (char : Char) : Bool :=
  let code := char.toNat
  code == 0x09 || code == 0x0A || code == 0x0D || (0x20 ≤ code && code ≤ 0x7E)
    || code == 0x85 || (0xA0 ≤ code && code ≤ 0xD7FF)
    || (0xE000 ≤ code && code ≤ 0xFFFD && code != 0xFEFF) || 0x10000 ≤ code

/-- Turns every break of one or two characters into one line feed, but keeps
the line and paragraph separators. -/
def normalizeBreaks : List Char → List Char
  | '\r' :: '\n' :: rest => '\n' :: normalizeBreaks rest
  | char :: rest =>
    (if char = '\r' ∨ char = '\x85' then '\n' else char) :: normalizeBreaks rest
  | [] => []

/-- A break between two lines of a normalized text. -/
def isBreak (char : Char) : Bool :=
  char == '\n' || char == '\u2028' || char == '\u2029'

def isBlank (char : Char) : Bool :=
  char == ' ' || char == '\t'

/-- Whether the rest of a text begins with a blank or a break, or is empty. -/
def atGap : List Char → Bool
  | [] => true
  | char :: _ => isBlank char || isBreak char

/-- The characters of names: letters and digits of ASCII, `_` and `-`. -/
def isWordChar (char : Char) : Bool :=
  char.isAlphanum || char == '_' || char == '-'

/-- Whether a document begins or ends here, if this is the begin of a line. -/
def atDocumentMark : List Char → Bool
  | '-' :: '-' :: '-' :: rest => atGap rest
  | '.' :: '.' :: '.' :: rest => atGap rest
  | _ => false

/-- A place in a text: what follows, the line and the column. -/
structure Cursor where
  rest : List Char
  line : Nat
  column : Nat

namespace Cursor

def start (chars : List Char) : Cursor :=
  { rest := chars, line := 0, column := 0 }

/-- The place some characters further on the same line. -/
def forward (count : Nat) (cursor : Cursor) : Cursor :=
  { cursor with rest := cursor.rest.drop count, column := cursor.column + count }

/-- The place after the characters for which a test holds, none of them a
break, and these characters. -/
def takeWhile (test : Char → Bool) (cursor : Cursor) : List Char × Cursor :=
  let taken := cursor.rest.takeWhile test
  (taken, cursor.forward taken.length)

/-- The place of the next break, or the end. -/
def toBreak (cursor : Cursor) : Cursor :=
  (cursor.takeWhile (fun char => !isBreak char)).2

/-- The place after the blanks. -/
def afterBlanks (cursor : Cursor) : Cursor :=
  (cursor.takeWhile isBlank).2

/-- The place after the blanks, the comment and the break that may still stand
on a line; there must be nothing else. -/
def afterLine? (cursor : Cursor) : Option Cursor :=
  let cursor := cursor.afterBlanks
  let cursor := if cursor.rest.head? = some '#' then cursor.toBreak else cursor
  match cursor.rest with
  | [] => some cursor
  | char :: rest =>
    if isBreak char then some { rest, line := cursor.line + 1, column := 0 } else none

end Cursor

end SoloJournal.Yaml
