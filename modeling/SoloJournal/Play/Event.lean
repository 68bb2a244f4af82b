import SoloJournal.Card.Basic
import SoloJournal.Play.Status

/-!
# Events

What happened in a game, told in the order in which it happened.
-/

namespace SoloJournal

inductive Event where
  | dealt (deck : Nat)
  | resumed (deck : Nat) (status : Status)
  | reshuffled (deck : Nat)
  | turnRolled (number : UInt32) (roll : UInt8)
  | turnEnded (number : UInt32)
  | drawn (card : Card) (remaining : Nat)
  | applied (card : Card) (tokens : Int64) (blocks : UInt32)
  | tokensChanged (change : Change Int64)
  | pulled (stability : UInt32) (threshold : UInt8) (rolls : List UInt8) (lost : UInt32)
  | stabilityChanged (change : Change UInt32)
  | ended (status : Status)
  | journalSaved (chars : Nat)
  deriving DecidableEq

/-- What an action answers, the events it causes, and the state after it.  A
refusal is an answer too. -/
structure Outcome (ε α σ : Type) where
  answer : Except ε α
  events : List Event
  after : σ

namespace Outcome

variable {ε α σ : Type}

/-- A refused action: nothing happens. -/
def refuse (reason : ε) (state : σ) : Outcome ε α σ :=
  { answer := .error reason, events := [], after := state }

def accept (answer : α) (events : List Event) (after : σ) : Outcome ε α σ :=
  { answer := .ok answer, events, after }

end Outcome

end SoloJournal
