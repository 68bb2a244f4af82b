import SoloJournal.Yaml.Scalar.Fold

/-!
# Plain scalars

A plain scalar has no quotes.  It ends before a comment, a colon with a gap
after it, the marks of a flow collection within one, a line that is indented
too little, and the begin or end of a document.
-/

namespace SoloJournal.Yaml.Plain

/-- The marks that end a plain scalar within a flow collection. -/
def isFlowMark (char : Char) : Bool :=
  char == ',' || char == '[' || char == ']' || char == '\x7b' || char == '\x7d'

/-- Whether a plain scalar ends before a word that follows a gap. -/
def endsInGap (flow : Bool) (indent column : Nat) (chars : List Char) : Bool :=
  (!flow && column < indent) || (column == 0 && atDocumentMark chars)
    || chars.head? == some '#'

/-- Whether a colon may not stand here within a flow collection. -/
def isBadColon (flow : Bool) : List Char → Bool
  | ':' :: next :: _ => flow && (isFlowMark next || next == '?')
  | _ => false

/-- Whether a plain scalar ends before these characters, also within a word. -/
def endsHere (flow : Bool) : List Char → Bool
  | ':' :: rest => atGap rest
  | char :: _ => flow && isFlowMark char
  | [] => true

/-- A plain scalar that has been read: its text, whether it ended on another
line than its last word, and the place after it. -/
structure Result where
  text : String
  broken : Bool
  cursor : Cursor

def finish (folding : Folding) (cursor : Cursor) : Result :=
  { text := folding.result, broken := folding.broken, cursor }

/-- Reads on.  The lines after the first must be indented by `indent` columns,
unless the scalar is part of a flow collection. -/
def readFrom (flow : Bool) (indent : Nat) (folding : Folding) (line column : Nat) :
    List Char → Option Result
  | [] => some (finish folding { rest := [], line, column })
  | char :: rest =>
    if isBreak char then
      readFrom flow indent (folding.pushBreak char) (line + 1) 0 rest
    else if isBlank char then
      if folding.broken && column < indent && char == '\t' then none
      else readFrom flow indent (folding.pushBlank char) line (column + 1) rest
    else if folding.inGap && endsInGap flow indent column (char :: rest) then
      some (finish folding { rest := char :: rest, line, column })
    else if isBadColon flow (char :: rest) then none
    else if endsHere flow (char :: rest) then
      some (finish folding { rest := char :: rest, line, column })
    else readFrom flow indent (folding.push char) line (column + 1) rest

def read (flow : Bool) (indent : Nat) (cursor : Cursor) : Option Result :=
  readFrom flow indent .empty cursor.line cursor.column cursor.rest

end SoloJournal.Yaml.Plain
