import SoloJournal.Yaml.Cursor

/-!
# Folding

Between two words of a plain or quoted scalar there may be blanks, which are
kept, or breaks, which are folded: a single line feed becomes a blank, and of
several breaks the first is dropped.  Blanks around breaks are dropped too.
-/

namespace SoloJournal.Yaml

/-- The text of a scalar read so far, and the gap after its last word.  All
characters are held latest first. -/
structure Folding where
  text : List Char
  blanks : List Char
  /-- The first break of the gap. -/
  first : Option Char
  /-- The breaks after the first. -/
  more : List Char
  /-- Whether the gap reaches into another line. -/
  broken : Bool

namespace Folding

def empty : Folding :=
  { text := [], blanks := [], first := none, more := [], broken := false }

/-- Whether a gap follows the last word. -/
def inGap (folding : Folding) : Bool :=
  folding.broken || !folding.blanks.isEmpty

/-- Lengthens the gap by a blank. -/
def pushBlank (char : Char) (folding : Folding) : Folding :=
  if folding.broken then folding
  else { folding with blanks := char :: folding.blanks }

/-- Lengthens the gap by a break. -/
def pushBreak (char : Char) (folding : Folding) : Folding :=
  if folding.broken then { folding with more := char :: folding.more }
  else { folding with blanks := [], first := some char, broken := true }

/-- What a gap becomes, latest first. -/
def gap (folding : Folding) : List Char :=
  if folding.broken then
    match folding.first with
    | some '\n' => if folding.more.isEmpty then [' '] else folding.more
    | some other => folding.more ++ [other]
    | none => folding.more
  else folding.blanks

/-- Ends the gap. -/
def close (folding : Folding) : Folding :=
  { text := folding.gap ++ folding.text, blanks := [], first := none, more := []
    broken := false }

/-- Adds a character of a word. -/
def push (char : Char) (folding : Folding) : Folding :=
  let folding := folding.close
  { folding with text := char :: folding.text }

/-- The text without the gap after its last word. -/
def result (folding : Folding) : String :=
  String.ofList folding.text.reverse

end Folding

end SoloJournal.Yaml
