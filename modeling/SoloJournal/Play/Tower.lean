import SoloJournal.Chance.Source
import SoloJournal.Number.Binary64
import SoloJournal.Play.Event
import SoloJournal.Play.TurnDie
import SoloJournal.Rules.Rulebook

/-!
# The tower

A pull rolls one die for every block that stands.  Each die at or under the
failure threshold costs a block, and the threshold rises as the stability
falls into the bands of danger and of critical danger.
-/

namespace SoloJournal

/-- How endangered the tower is. -/
inductive Band where
  | safe
  | danger
  | critical
  deriving DecidableEq, Repr

namespace Band

def all : List Band := [safe, danger, critical]

def key : Band → String
  | safe => "Safe"
  | danger => "Danger"
  | critical => "Critical"

def ofStability (stability : UInt32) (thresholds : Thresholds) : Band :=
  if stability ≤ thresholds.critical then critical
  else if stability ≤ thresholds.danger then danger
  else safe

/-- The highest face that costs a block. -/
def threshold : Band → UInt8
  | safe => 1
  | danger => 2
  | critical => 3

end Band

/-- The dice of one pull and the blocks they cost. -/
structure Pull where
  threshold : UInt8
  rolls : List UInt8
  lost : UInt32
  deriving DecidableEq

namespace Tower

variable {source : Type} [RandomSource source]

/-- One pull at a tower of `stability` blocks. -/
def pull (stability : UInt32) (thresholds : Thresholds) (state : source) : Pull × source :=
  let threshold := (Band.ofStability stability thresholds).threshold
  let (rolls, state) := RandomSource.rollDice stability.toNat state
  let lost := UInt32.ofNat (rolls.countP (fun face => face ≤ threshold))
  ({ threshold, rolls, lost }, state)

/-- The blocks that a pull is expected to cost, to the nearest binary number. -/
def expectedLoss (stability : UInt32) (threshold : UInt8) : Binary64 :=
  Binary64.ofRatio false (stability.toNat * (min threshold TurnDie.faces).toNat)
    TurnDie.faces.toNat

/-- The events of a pull that has changed the ledger as told. -/
def pullEvents (pull : Pull) (change : Change UInt32) : List Event :=
  .pulled change.before pull.threshold pull.rolls pull.lost
    :: (if change.isReal then [.stabilityChanged change] else [])

/-- Up to `count` pulls in order, each with the threshold of the stability it
finds; a fallen tower ends them.  Gives the blocks lost, the events and what
the pulls leave behind. -/
def pullMany (thresholds : Thresholds) : Nat → Ledger → source →
    Nat × List Event × Ledger × source
  | 0, ledger, state => (0, [], ledger, state)
  | count + 1, ledger, state =>
    if ledger.stability = 0 then (0, [], ledger, state)
    else
      let (pull, state) := pull ledger.stability thresholds state
      let (change, ledger) := ledger.loseStability pull.lost
      let (lost, events, ledger, state) := pullMany thresholds count ledger state
      (pull.lost.toNat + lost, pullEvents pull change ++ events, ledger, state)

end Tower

end SoloJournal
