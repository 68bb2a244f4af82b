import SoloJournal.Json.Reader
import SoloJournal.Json.Render
import SoloJournal.Wire.Play

/-!
# Saved games

A saved game is everything that is needed to go on with a game.  It is kept as
a JSON text with every item on a line of its own.  A text is taken back only
when it has the right version and describes a game that can have been played.
-/

namespace SoloJournal

structure SavedGame where
  version : UInt32
  tokens : Int64
  stability : UInt32
  /-- The undrawn cards, from the bottom to the top. -/
  deck : List Card
  history : History
  /-- The card that is drawn but not yet applied. -/
  pending : Option Card
  status : Status
  journal : String
  turn : Option TurnDie
  /-- The signature of the content; empty where none was recorded. -/
  signature : String
  deriving DecidableEq

/-- Why a game could not be saved or taken back. -/
inductive SaveError where
  | io (text : String)
  | unreadable
  | unsupportedVersion (found : UInt32)
  | repeatedCard (card : Card)
  | impossibleTurn (turn : TurnDie)
  | otherContent (saved current : String)
  deriving DecidableEq

namespace SavedGame

/-- The version of the saved games that are written and accepted. -/
def currentVersion : UInt32 := 1

/-- The first card that stands in the list for the second time. -/
def firstRepeat? : List Card → List Card → Option Card
  | _, [] => none
  | seen, card :: cards =>
    if card ∈ seen then some card else firstRepeat? (card :: seen) cards

/-- The cards that must differ: the pending one and those of the deck. -/
def unresolved (saved : SavedGame) : List Card :=
  saved.pending.toList ++ saved.deck

/-- What is wrong with a saved game, if anything: a card that occurs twice, or
a turn that no die begins. -/
def flaw? (saved : SavedGame) : Option SaveError :=
  match firstRepeat? [] saved.unresolved with
  | some card => some (.repeatedCard card)
  | none =>
    match saved.turn with
    | some turn => if turn.isConsistent then none else some (.impossibleTurn turn)
    | none => none

instance : Wire SavedGame where
  write saved := .record
    [("version", Wire.write saved.version), ("tokens", Wire.write saved.tokens),
      ("stability", Wire.write saved.stability), ("deck", Wire.write saved.deck),
      ("history", Wire.write saved.history), ("pending", Wire.write saved.pending),
      ("status", Wire.write saved.status), ("journal", .string saved.journal),
      ("turn", Wire.write saved.turn), ("content_signature", .string saved.signature)]
  read value := do
    match ← value.fields? ["version", "tokens", "stability", "deck", "history", "pending",
        "status", "journal", "turn", "content_signature"] with
    | [version, tokens, stability, deck, history, pending, status, journal, turn,
        signature] =>
      return {
        version := ← Wire.required version
        tokens := ← Wire.required tokens
        stability := ← Wire.required stability
        deck := ← Wire.required deck
        history := ← Wire.withDefault History.empty history
        pending := ← Wire.withDefault none pending
        status := ← Wire.required status
        journal := ← Wire.withDefault "" journal
        turn := ← Wire.withDefault none turn
        signature := ← Wire.withDefault "" signature }
    | _ => none

/-- The text that a saved game is kept as. -/
def toText (saved : SavedGame) : String :=
  (Wire.write saved).indented

/-- Takes a saved game back from its text. -/
def ofText (text : String) : Except SaveError SavedGame :=
  let found : Option SavedGame := (Json.parse? text).bind Wire.read
  match found with
  | none => .error .unreadable
  | some saved =>
    if saved.version ≠ currentVersion then .error (.unsupportedVersion saved.version)
    else
      match saved.flaw? with
      | some flaw => .error flaw
      | none => .ok saved

end SavedGame

namespace SaveError

/-- An error in words.  What a reader of texts has to say about one it cannot
read is not part of the message. -/
def message : SaveError → String
  | io text => "io error: " ++ text
  | unreadable => "serialize error: not a saved game"
  | unsupportedVersion found =>
    "unsupported save version " ++ Decimal.natText found.toNat ++ " (expected "
      ++ Decimal.natText SavedGame.currentVersion.toNat ++ ")"
  | repeatedCard card => "invalid save: " ++ card.text ++ " appears more than once in the deck"
  | impossibleTurn turn =>
    "invalid save: turn " ++ Decimal.natText turn.number.toNat ++ " has die "
      ++ Decimal.natText turn.rolled.toNat ++ " with "
      ++ Decimal.natText turn.remaining.toNat ++ " cards left"
  | otherContent saved current =>
    "save was made for different game content (saved " ++ saved ++ ", current " ++ current
      ++ ")"

end SaveError

end SoloJournal
