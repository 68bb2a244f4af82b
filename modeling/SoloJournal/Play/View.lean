import SoloJournal.Play.Game

/-!
# Views

What a player is shown of a game.
-/

namespace SoloJournal

/-- A card with the title of its prompt. -/
structure CardView where
  card : Card
  title : String
  deriving DecidableEq

structure PendingView where
  card : Card
  prompt : Prompt
  deriving DecidableEq

structure GameView where
  tokensName : String
  tokens : Int64
  stabilityName : String
  stability : UInt32
  stabilityInitial : UInt32
  band : Band
  deckRemaining : Nat
  phase : Phase
  turn : Option TurnDie
  pending : Option PendingView
  history : List CardView
  status : Status
  /-- The words for a terminal status. -/
  message : Option String
  deriving DecidableEq

namespace Game

variable {σ : Type}

/-- A card with its title, which is empty where the catalog has no prompt. -/
def cardView (game : Game σ) (card : Card) : CardView :=
  { card, title := ((game.content.catalog.prompt? card).map Prompt.title).getD "" }

def view (game : Game σ) : GameView :=
  { tokensName := game.content.rules.mechanics.tokens.name
    tokens := game.ledger.tokens
    stabilityName := game.content.rules.mechanics.stability.name
    stability := game.ledger.stability
    stabilityInitial := game.content.rules.mechanics.stability.initial
    band := game.band
    deckRemaining := game.deck.remaining
    phase := game.phase
    turn := game.turn
    pending := game.pendingPrompt?.map (fun (card, prompt) => { card, prompt })
    history := game.history.cards.map game.cardView
    status := game.status
    message := if game.status.isTerminal then some game.statusMessage else none }

end Game

end SoloJournal
