import SoloJournal.Play.Ledger

/-!
# How a game stands

A game is active until the tower falls, the tokens are spent or the deck runs
out; when several hold at once, that is also the order in which they count.
-/

namespace SoloJournal

inductive Status where
  | active
  /-- The deck ran out: the player has won. -/
  | deckSpent
  /-- The tower fell: the player has lost. -/
  | towerFallen
  /-- No token is left: the player has lost. -/
  | tokensSpent
  deriving DecidableEq, Repr

namespace Status

def all : List Status := [active, deckSpent, towerFallen, tokensSpent]

def key : Status → String
  | active => "Active"
  | deckSpent => "WonByDeckExhaustion"
  | towerFallen => "LostByStabilityZero"
  | tokensSpent => "LostByTokensZero"

/-- A terminal status ends the game. -/
def isTerminal (status : Status) : Bool :=
  status != active

def isWin (status : Status) : Bool :=
  status == deckSpent

/-- The message of a status for which the rulebook has none. -/
def defaultMessage : Status → String
  | active => "The game continues."
  | deckSpent => "The deck is spent and you endure."
  | towerFallen => "The tower has fallen."
  | tokensSpent => "You have nothing left to give."

/-- The status of a ledger when `unresolved` cards are still to be applied.
Running out of cards counts only when the deck can run out. -/
def judge (ledger : Ledger) (unresolved : Nat) (canRunOut : Bool) : Status :=
  if ledger.stability = 0 then towerFallen
  else if ledger.tokens ≤ 0 then tokensSpent
  else if canRunOut && unresolved == 0 then deckSpent
  else active

end Status

end SoloJournal
