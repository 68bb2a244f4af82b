import SoloJournal.Yaml.Cursor

/-!
# Block scalars

A block scalar is a run of lines with one indentation, which is that of its
first line unless it is given.  A literal scalar keeps its breaks, and a folded
one turns single breaks between lines of text into blanks.
-/

namespace SoloJournal.Yaml.Block

inductive Style where
  | literal
  | folded
  deriving DecidableEq

/-- What becomes of the breaks at the end. -/
inductive Chomping where
  | strip
  | clip
  | keep
  deriving DecidableEq

/-- What stands behind the mark of a block scalar. -/
structure Header where
  chomping : Chomping
  /-- By how much the lines are indented more than what is around them. -/
  indentation : Option Nat

def chomping? (char : Char) : Option Chomping :=
  match char with
  | '+' => some .keep
  | '-' => some .strip
  | _ => none

/-- The indentation that a digit gives; zero is not allowed. -/
def indentation? (char : Char) : Option Nat :=
  if char.isDigit && char != '0' then some (char.toNat - '0'.toNat) else none

/-- Reads the header, which may have both its parts in either order. -/
def readHeader (cursor : Cursor) : Option (Header × Cursor) :=
  match cursor.rest with
  | first :: rest =>
    match chomping? first with
    | some chomping =>
      match rest with
      | second :: _ =>
        if second = '0' then none
        else
          match indentation? second with
          | some indentation =>
            some ({ chomping, indentation := some indentation }, cursor.forward 2)
          | none => some ({ chomping, indentation := none }, cursor.forward 1)
      | [] => some ({ chomping, indentation := none }, cursor.forward 1)
    | none =>
      if first = '0' then none
      else
        match indentation? first with
        | some indentation =>
          match rest.head?.bind chomping? with
          | some chomping =>
            some ({ chomping, indentation := some indentation }, cursor.forward 2)
          | none =>
            some ({ chomping := .clip, indentation := some indentation }, cursor.forward 1)
        | none => some ({ chomping := .clip, indentation := none }, cursor)
  | [] => some ({ chomping := .clip, indentation := none }, cursor)

/-- What has been read of a block scalar.  Characters are held latest first. -/
structure Part where
  text : List Char
  /-- The break after the last line of text. -/
  lineBreak : Option Char
  /-- The breaks after that one. -/
  more : List Char
  /-- Whether the last line of text begins with a blank. -/
  afterBlank : Bool
  /-- The column of the lines, once it is known. -/
  indent : Option Nat
  /-- The furthest column that the blanks before the first line reach. -/
  deepest : Nat

/-- Begins a line of text with a character.  A folded scalar drops a line feed
between two lines that begin with no blank; without further breaks it leaves a
blank there. -/
def Part.beginLine (style : Style) (char : Char) (part : Part) : Part :=
  let folds := style = .folded ∧ part.lineBreak = some '\n' ∧ ¬part.afterBlank
    ∧ ¬isBlank char
  let joined :=
    if folds then if part.more.isEmpty then ' ' :: part.text else part.text
    else part.lineBreak.toList ++ part.text
  { part with
    text := part.more ++ joined, lineBreak := none, more := [], afterBlank := isBlank char }

/-- The text with as many breaks at its end as the chomping says. -/
def Part.result (chomping : Chomping) (part : Part) : String :=
  let chars :=
    match chomping with
    | .strip => part.text
    | .clip => part.lineBreak.toList ++ part.text
    | .keep => part.more ++ part.lineBreak.toList ++ part.text
  String.ofList chars.reverse

/-- Reads on.  `inLine` says whether a line of text has begun, and `least` is
the least column for lines whose indentation is not given. -/
def readFrom (style : Style) (chomping : Chomping) (least : Nat) (inLine : Bool)
    (part : Part) (line column : Nat) : List Char → Option (String × Cursor)
  | [] => some (part.result chomping, { rest := [], line, column })
  | char :: rest =>
    if inLine then
      if isBreak char then
        readFrom style chomping least false { part with lineBreak := some char } (line + 1) 0
          rest
      else
        readFrom style chomping least true { part with text := char :: part.text } line
          (column + 1) rest
    else
      let outside := match part.indent with
        | some indent => decide (column < indent)
        | none => true
      let deepest := max part.deepest column
      if outside && char == ' ' then
        readFrom style chomping least false part line (column + 1) rest
      else if outside && char == '\t' then none
      else if isBreak char then
        readFrom style chomping least false { part with more := char :: part.more, deepest }
          (line + 1) 0 rest
      else
        let indent := part.indent.getD (max deepest least)
        if column = indent then
          let part := { part with indent := some indent }.beginLine style char
          readFrom style chomping least true { part with text := char :: part.text } line
            (column + 1) rest
        else some (part.result chomping, { rest := char :: rest, line, column })

/-- Reads a scalar from the place of its mark.  `around` is the column of what
is around it, one further on: zero at the top of a document. -/
def read (style : Style) (around : Nat) (cursor : Cursor) : Option (String × Cursor) := do
  let (header, cursor) ← readHeader (cursor.forward 1)
  let cursor ← cursor.afterLine?
  let indent := header.indentation.map (fun indentation => (around - 1) + indentation)
  let part : Part :=
    { text := [], lineBreak := none, more := [], afterBlank := false, indent, deepest := 0 }
  readFrom style header.chomping (max around 1) false part cursor.line cursor.column
    cursor.rest

end SoloJournal.Yaml.Block
