import SoloJournal.Number.Decimal
import SoloJournal.Text.Blank

/-!
# Commands of a player

A line holds one command: a word, and for some words an argument after it.
Letter case does not matter in the word, and blanks around word and argument
do not matter at all.
-/

namespace SoloJournal.Terminal

inductive Command where
  | roll
  | draw
  | resolve
  | tokens (delta : Int64)
  | note (text : String)
  | journal
  | status
  | history
  | story
  | restart
  | help
  | quit
  deriving DecidableEq

inductive CommandError where
  | notANumber (text : String)
  | emptyNote
  | unknown (word : String)
  deriving DecidableEq

namespace CommandError

def message : CommandError → String
  | notANumber text => "expected a number like +2 or -1, got '" ++ text ++ "'"
  | emptyNote => "note needs some text"
  | unknown word => "unknown command '" ++ word ++ "' (type 'help')"

end CommandError

namespace Command

/-- The integer of 64 bits that digits after an optional sign spell. -/
def delta? (text : List Char) : Option Int64 := do
  let value ← Decimal.intOf? text
  if Int64.minValue.toInt ≤ value ∧ value ≤ Int64.maxValue.toInt then
    some (Int64.ofInt value)
  else none

/-- The command of a word in small letters with its argument. -/
def ofWord (word : String) (argument : List Char) : Except CommandError Command :=
  match word with
  | "roll" | "r" => .ok roll
  | "draw" | "d" => .ok draw
  | "apply" | "a" | "confirm" => .ok resolve
  | "tokens" | "t" =>
    match delta? argument with
    | some delta => .ok (tokens delta)
    | none => .error (.notANumber (String.ofList argument))
  | "note" | "n" =>
    if argument.isEmpty then .error .emptyNote else .ok (note (String.ofList argument))
  | "journal" | "j" => .ok journal
  | "status" | "s" => .ok status
  | "history" | "h" => .ok history
  | "story" => .ok story
  | "new" => .ok restart
  | "help" | "?" => .ok help
  | "quit" | "exit" | "q" => .ok quit
  | other => .error (.unknown other)

/-- The command on a line; a blank line has none. -/
def parse (line : String) : Except CommandError (Option Command) :=
  let chars := Text.trimChars line.toList
  if chars.isEmpty then .ok none
  else
    let (word, rest) := Text.cutAtBlank chars
    (ofWord (String.ofList (Text.foldCase word)) (Text.trimChars rest)).map some

/-- The commands with their arguments, and what they do. -/
def descriptions : List (String × String) :=
  [("roll", "roll the turn die: how many cards this turn"),
    ("draw", "reveal the next card"),
    ("apply", "apply the revealed card's effects"),
    ("tokens +N|-N", "adjust tokens by hand"),
    ("note TEXT", "add a line to your journal"),
    ("journal", "show the journal"),
    ("status", "show resources and the card in play"),
    ("history", "show the last cards applied"),
    ("story", "show the introduction"),
    ("new", "abandon this game and start another"),
    ("quit", "save and leave")]

/-- A text filled up with blanks to a width. -/
def padded (width : Nat) (text : String) : String :=
  text ++ String.ofList (List.replicate (width - text.length) ' ')

/-- The help, with all descriptions in one column. -/
def helpLines : List String :=
  descriptions.map
    (fun (usage, description) => "  " ++ padded 14 usage ++ " " ++ description)

end Command

end SoloJournal.Terminal
