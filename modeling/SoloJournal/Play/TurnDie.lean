import SoloJournal.Chance.Source

/-!
# The turn die

A die rolled at the start of a turn says how many cards the turn has.
-/

namespace SoloJournal

structure TurnDie where
  /-- The number of the turn, beginning with one. -/
  number : UInt32
  rolled : UInt8
  /-- How many cards of the turn are still to be applied. -/
  remaining : UInt8
  deriving DecidableEq

namespace TurnDie

universe u

variable {source : Type u} [RandomSource source]

/-- How many faces a die has. -/
def faces : UInt8 := 6

def roll (number : UInt32) (state : source) : TurnDie × source :=
  let (rolled, state) := RandomSource.rollDie state
  ({ number, rolled, remaining := rolled }, state)

def inProgress (turn : TurnDie) : Bool :=
  0 < turn.remaining

/-- Counts one applied card, and says whether it closed the turn. -/
def countCard (turn : TurnDie) : Bool × TurnDie :=
  if turn.remaining = 0 then (false, turn)
  else (turn.remaining - 1 == 0, { turn with remaining := turn.remaining - 1 })

/-- A turn that a die can have begun. -/
def isConsistent (turn : TurnDie) : Bool :=
  1 ≤ turn.rolled && turn.rolled ≤ faces && turn.remaining ≤ turn.rolled
    && 0 < turn.number

end TurnDie

end SoloJournal
