import SoloJournal.Play.Status

/-!
# Rulebooks

What an author decides about a game: its name, the counters with their
starting values, when the tower counts as endangered, whether the deck is dealt
again when it runs out, and the words for each ending.
-/

namespace SoloJournal

structure GameInfo where
  title : String
  author : String
  subtitle : Option String
  version : Option String
  description : Option String
  deriving DecidableEq

structure TokenRule where
  name : String
  initial : Int64
  deriving DecidableEq

/-- The largest stabilities that count as danger and as critical. -/
structure Thresholds where
  danger : UInt32
  critical : UInt32
  deriving DecidableEq

namespace Thresholds

def standard : Thresholds := { danger := 5, critical := 2 }

end Thresholds

structure StabilityRule where
  name : String
  initial : UInt32
  thresholds : Thresholds
  deriving DecidableEq

structure DeckRule where
  /-- Whether an empty deck is dealt again. -/
  reshuffle : Bool
  deriving DecidableEq

structure Mechanics where
  systems : List String
  tokens : TokenRule
  stability : StabilityRule
  deck : DeckRule
  deriving DecidableEq

/-- What an ending is about. -/
inductive Condition where
  | deckEmpty
  | stabilityZero
  | tokensZero
  deriving DecidableEq, Repr

namespace Condition

def all : List Condition := [deckEmpty, stabilityZero, tokensZero]

def key : Condition → String
  | deckEmpty => "deck_empty"
  | stabilityZero => "stability_zero"
  | tokensZero => "tokens_zero"

/-- The condition under which a game comes to a status. -/
def ofStatus? : Status → Option Condition
  | .active => none
  | .deckSpent => some deckEmpty
  | .towerFallen => some stabilityZero
  | .tokensSpent => some tokensZero

end Condition

/-- The author's words for one condition. -/
structure Ending where
  condition : Condition
  message : String
  deriving DecidableEq

structure Endings where
  win : List Ending
  lose : List Ending
  deriving DecidableEq

structure Rulebook where
  game : GameInfo
  mechanics : Mechanics
  endings : Endings
  deriving DecidableEq

namespace Rulebook

def thresholds (rules : Rulebook) : Thresholds :=
  rules.mechanics.stability.thresholds

def reshuffle (rules : Rulebook) : Bool :=
  rules.mechanics.deck.reshuffle

/-- The author's words for a terminal status: those of the first ending with
its condition, among the winning or the losing ones. -/
def messageFor? (rules : Rulebook) (status : Status) : Option String := do
  let condition ← Condition.ofStatus? status
  let endings := if status.isWin then rules.endings.win else rules.endings.lose
  let ending ← endings.find? (fun ending => ending.condition == condition)
  return ending.message

/-- The ledger that a game begins with. -/
def openingLedger (rules : Rulebook) : Ledger :=
  Ledger.opening rules.mechanics.tokens.initial rules.mechanics.stability.initial

/-- A rulebook of which only the numbers matter. -/
def ofNumbers (tokens : Int64) (stability : UInt32) (thresholds : Thresholds) : Rulebook :=
  { game :=
      { title := "Untitled", author := "Unknown", subtitle := none, version := none,
        description := none }
    mechanics :=
      { systems := []
        tokens := { name := "Tokens", initial := tokens }
        stability := { name := "Stability", initial := stability, thresholds }
        deck := { reshuffle := false } }
    endings := { win := [], lose := [] } }

end Rulebook

end SoloJournal
