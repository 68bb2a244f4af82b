import SoloJournal.Number.Digit
import SoloJournal.Yaml.Scalar.Fold

/-!
# Quoted scalars

In single quotes only the quote itself is written specially, twice.  In double
quotes a backslash begins an escape, and a backslash before a break makes the
line go on in the next one.
-/

namespace SoloJournal.Yaml.Quoted

inductive Style where
  | single
  | double
  deriving DecidableEq

def Style.quote : Style → Char
  | single => '\''
  | double => '"'

/-- What the character after a backslash means. -/
inductive Escape where
  | char (meant : Char)
  /-- A character with a code of so many hexadecimal digits. -/
  | code (digits : Nat)

def escape? (char : Char) : Option Escape :=
  match char with
  | '0' => some (.char '\x00')
  | 'a' => some (.char '\x07')
  | 'b' => some (.char '\x08')
  | 't' => some (.char '\t')
  | '\t' => some (.char '\t')
  | 'n' => some (.char '\n')
  | 'v' => some (.char '\x0b')
  | 'f' => some (.char '\x0c')
  | 'r' => some (.char '\r')
  | 'e' => some (.char '\x1b')
  | ' ' => some (.char ' ')
  | '"' => some (.char '"')
  | '/' => some (.char '/')
  | '\\' => some (.char '\\')
  | 'N' => some (.char '\x85')
  | '_' => some (.char '\xa0')
  | 'L' => some (.char '\u2028')
  | 'P' => some (.char '\u2029')
  | 'x' => some (.code 2)
  | 'u' => some (.code 4)
  | 'U' => some (.code 8)
  | _ => none

/-- The character with a code. -/
def ofCode? (code : Nat) : Option Char :=
  if code.isValidChar then some (Char.ofNat code) else none

/-- Where in an escape the reader stands. -/
inductive Mode where
  | text
  /-- After a single quote, which ends the scalar unless another follows. -/
  | quote
  | backslash
  /-- With so many digits of a code still to come. -/
  | code (digits : Nat) (value : Nat)

/-- Reads on.  The scalar ends with its quote, and no document may begin or end
within it. -/
def readFrom (style : Style) (mode : Mode) (folding : Folding) (line column : Nat) :
    List Char → Option (String × Cursor)
  | [] =>
    match mode with
    | .quote => some (folding.result, { rest := [], line, column })
    | _ => none
  | char :: rest =>
    match mode with
    | .quote =>
      if char = '\'' then
        readFrom style .text (folding.push char) line (column + 1) rest
      else some (folding.result, { rest := char :: rest, line, column })
    | .backslash =>
      if isBreak char then
        readFrom style .text { folding with broken := true } (line + 1) 0 rest
      else
        match escape? char with
        | some (.char meant) =>
          readFrom style .text (folding.push meant) line (column + 1) rest
        | some (.code digits) =>
          readFrom style (.code digits 0) folding line (column + 1) rest
        | none => none
    | .code digits value =>
      match hexValue? char with
      | none => none
      | some digit =>
        let value := value * 16 + digit
        if digits ≤ 1 then
          match ofCode? value with
          | some meant => readFrom style .text (folding.push meant) line (column + 1) rest
          | none => none
        else readFrom style (.code (digits - 1) value) folding line (column + 1) rest
    | .text =>
      if isBreak char then
        readFrom style .text (folding.pushBreak char) (line + 1) 0 rest
      else if isBlank char then
        readFrom style .text (folding.pushBlank char) line (column + 1) rest
      else if column == 0 && atDocumentMark (char :: rest) then none
      else if char = style.quote then
        match style with
        | .single => readFrom style .quote folding.close line (column + 1) rest
        | .double => some (folding.close.result, { rest, line, column := column + 1 })
      else if style = .double ∧ char = '\\' then
        readFrom style .backslash folding.close line (column + 1) rest
      else readFrom style .text (folding.push char) line (column + 1) rest

/-- Reads a scalar from the place of its first quote. -/
def read (style : Style) (cursor : Cursor) : Option (String × Cursor) :=
  let cursor := cursor.forward 1
  readFrom style .text .empty cursor.line cursor.column cursor.rest

end SoloJournal.Yaml.Quoted
