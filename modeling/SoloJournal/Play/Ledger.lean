/-!
# The ledger

The two counters of a game: tokens, which have a floor at zero and no ceiling
but that of their type, and the stability of the tower, which only falls.
-/

namespace SoloJournal

universe u

/-- The value of a counter before and after an action. -/
structure Change (value : Type u) where
  before : value
  after : value
  deriving DecidableEq

namespace Change

/-- A change is real when the two values differ. -/
def isReal {value : Type u} [DecidableEq value] (change : Change value) : Bool :=
  change.before != change.after

end Change

structure Ledger where
  tokens : Int64
  stability : UInt32
  deriving DecidableEq

namespace Ledger

/-- A ledger that begins with the given counters, the tokens not below zero. -/
def opening (tokens : Int64) (stability : UInt32) : Ledger :=
  { tokens := max tokens 0, stability }

/-- The tokens after a change by `delta`: the sum, held within its type and not
below zero. -/
def creditedTokens (tokens delta : Int64) : Int64 :=
  max (Int64.ofIntClamp (tokens.toInt + delta.toInt)) 0

def changeTokens (ledger : Ledger) (delta : Int64) : Change Int64 × Ledger :=
  let tokens := creditedTokens ledger.tokens delta
  ({ before := ledger.tokens, after := tokens }, { ledger with tokens })

/-- What is left of the stability after a loss, never below zero. -/
def remainingStability (stability amount : UInt32) : UInt32 :=
  if amount ≤ stability then stability - amount else 0

def loseStability (ledger : Ledger) (amount : UInt32) : Change UInt32 × Ledger :=
  let stability := remainingStability ledger.stability amount
  ({ before := ledger.stability, after := stability }, { ledger with stability })

end Ledger

end SoloJournal
