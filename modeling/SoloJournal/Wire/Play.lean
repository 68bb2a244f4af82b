import SoloJournal.Play.Tower
import SoloJournal.Wire.Cards

/-!
# Wire forms of what happens in a game
-/

namespace SoloJournal

instance : Wire Status where
  write status := .string status.key
  read := Wire.readName Status.key Status.all

instance : Wire Band where
  write band := .string band.key
  read := Wire.readName Band.key Band.all

instance : Wire TurnDie where
  write turn := .record
    [("number", Wire.write turn.number), ("rolled", Wire.write turn.rolled),
      ("remaining", Wire.write turn.remaining)]
  read value := do
    match ← value.fields? ["number", "rolled", "remaining"] with
    | [number, rolled, remaining] =>
      return {
        number := ← Wire.required number
        rolled := ← Wire.required rolled
        remaining := ← Wire.required remaining }
    | _ => none

/-- A ledger is read as it stands, also with tokens below zero. -/
instance : Wire Ledger where
  write ledger := .record
    [("tokens", Wire.write ledger.tokens), ("stability", Wire.write ledger.stability)]
  read value := do
    match ← value.fields? ["tokens", "stability"] with
    | [tokens, stability] =>
      return { tokens := ← Wire.required tokens, stability := ← Wire.required stability }
    | _ => none

instance {α : Type} [Wire α] : Wire (Change α) where
  write change := .record
    [("from", Wire.write change.before), ("to", Wire.write change.after)]
  read value := do
    match ← value.fields? ["from", "to"] with
    | [before, after] =>
      return { before := ← Wire.required before, after := ← Wire.required after }
    | _ => none

namespace Event

/-- The name of an event on the wire and the record of what it tells. -/
def parts : Event → String × Json
  | dealt deck => ("GameStarted", .record [("deck", Wire.write deck)])
  | resumed deck status =>
    ("GameRestored", .record [("deck", Wire.write deck), ("status", Wire.write status)])
  | reshuffled deck => ("Reshuffled", .record [("deck", Wire.write deck)])
  | turnRolled number roll =>
    ("TurnRolled", .record [("number", Wire.write number), ("roll", Wire.write roll)])
  | turnEnded number => ("TurnEnded", .record [("number", Wire.write number)])
  | drawn card remaining =>
    ("CardDrawn", .record [("card", Wire.write card), ("remaining", Wire.write remaining)])
  | applied card tokens blocks =>
    ("CardApplied", .record
      [("card", Wire.write card), ("token_delta", Wire.write tokens),
        ("blocks", Wire.write blocks)])
  | tokensChanged change => ("TokensChanged", Wire.write change)
  | pulled stability threshold rolls lost =>
    ("BlockPulled", .record
      [("stability_before", Wire.write stability), ("threshold", Wire.write threshold),
        ("rolls", Wire.write rolls), ("lost", Wire.write lost)])
  | stabilityChanged change => ("StabilityChanged", Wire.write change)
  | ended status => ("GameEnded", .record [("status", Wire.write status)])
  | journalSaved chars => ("JournalSaved", .record [("chars", Wire.write chars)])

/-- The event with a name and what it tells. -/
def ofParts? (name : String) (value : Json) : Option Event := do
  match name with
  | "GameStarted" =>
    match ← value.fields? ["deck"] with
    | [deck] => return dealt (← Wire.required deck)
    | _ => none
  | "GameRestored" =>
    match ← value.fields? ["deck", "status"] with
    | [deck, status] => return resumed (← Wire.required deck) (← Wire.required status)
    | _ => none
  | "Reshuffled" =>
    match ← value.fields? ["deck"] with
    | [deck] => return reshuffled (← Wire.required deck)
    | _ => none
  | "TurnRolled" =>
    match ← value.fields? ["number", "roll"] with
    | [number, roll] => return turnRolled (← Wire.required number) (← Wire.required roll)
    | _ => none
  | "TurnEnded" =>
    match ← value.fields? ["number"] with
    | [number] => return turnEnded (← Wire.required number)
    | _ => none
  | "CardDrawn" =>
    match ← value.fields? ["card", "remaining"] with
    | [card, remaining] => return drawn (← Wire.required card) (← Wire.required remaining)
    | _ => none
  | "CardApplied" =>
    match ← value.fields? ["card", "token_delta", "blocks"] with
    | [card, tokens, blocks] =>
      return applied (← Wire.required card) (← Wire.required tokens) (← Wire.required blocks)
    | _ => none
  | "TokensChanged" => return tokensChanged (← Wire.read value)
  | "BlockPulled" =>
    match ← value.fields? ["stability_before", "threshold", "rolls", "lost"] with
    | [stability, threshold, rolls, lost] =>
      return pulled (← Wire.required stability) (← Wire.required threshold)
        (← Wire.required rolls) (← Wire.required lost)
    | _ => none
  | "StabilityChanged" => return stabilityChanged (← Wire.read value)
  | "GameEnded" =>
    match ← value.fields? ["status"] with
    | [status] => return ended (← Wire.required status)
    | _ => none
  | "JournalSaved" =>
    match ← value.fields? ["chars"] with
    | [chars] => return journalSaved (← Wire.required chars)
    | _ => none
  | _ => none

end Event

/-- An event is an object whose only member is named for the event. -/
instance : Wire Event where
  write event := .single event.parts.1 event.parts.2
  read
    | .object [(some name, value)] => Event.ofParts? name value
    | _ => none

end SoloJournal
