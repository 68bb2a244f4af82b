import SoloJournal.Play.Deck
import SoloJournal.Play.Tower
import SoloJournal.Rules.Content
import SoloJournal.Save.SavedGame

/-!
# The game

One solitaire game: the deck, the ledger, the card in hand and how the game
stands.  Every action is accepted or refused.  A refused action changes
nothing; an accepted one tells what happened by events.  Once the game is over
only a new deal and the journal are left.
-/

namespace SoloJournal

/-- Why an action is refused. -/
inductive GameError where
  | emptyDeck
  | drawWhilePending
  | noPendingCard
  | gameOver (status : Status)
  | unknownCard (card : Card)
  | turnInProgress (remaining : UInt8)
  deriving DecidableEq

namespace GameError

def message : GameError → String
  | emptyDeck => "the deck is empty"
  | drawWhilePending => "a card is already waiting to be applied"
  | noPendingCard => "no card is waiting to be applied"
  | gameOver status => "the game is over (" ++ status.key ++ ")"
  | unknownCard card => "card " ++ card.text ++ " is missing from the catalog"
  | turnInProgress remaining =>
    "the turn still has " ++ Decimal.natText remaining.toNat ++ " card(s) to play"

end GameError

structure Game (σ : Type) where
  content : Content
  source : σ
  deck : Deck
  ledger : Ledger
  history : History
  /-- The card in hand: drawn, but not yet applied. -/
  pending : Option Card
  status : Status
  journal : String
  turn : Option TurnDie

/-- What became of an applied card. -/
structure Applied where
  card : Card
  tokens : Change Int64
  stability : Change UInt32
  status : Status
  deriving DecidableEq

/-- Whether a card is in hand. -/
inductive Phase where
  | idle
  | cardRevealed
  deriving DecidableEq

namespace Phase

def key : Phase → String
  | idle => "Idle"
  | cardRevealed => "CardRevealed"

end Phase

namespace Game

variable {σ : Type}

/-- The cards still to be applied: those of the deck and the one in hand. -/
def unresolved (game : Game σ) : Nat :=
  game.deck.remaining + game.pending.toList.length

/-- The status that the counters and the cards call for. -/
def judged (game : Game σ) : Status :=
  Status.judge game.ledger game.unresolved (!game.content.rules.reshuffle)

def phase (game : Game σ) : Phase :=
  if game.pending.isSome then .cardRevealed else .idle

/-- The card in hand with its prompt, when the catalog has one. -/
def pendingPrompt? (game : Game σ) : Option (Card × Prompt) := do
  let card ← game.pending
  let prompt ← game.content.catalog.prompt? card
  return (card, prompt)

def band (game : Game σ) : Band :=
  Band.ofStability game.ledger.stability game.content.rules.thresholds

/-- The author's words for how the game stands, or plain ones. -/
def statusMessage (game : Game σ) : String :=
  (game.content.rules.messageFor? game.status).getD game.status.defaultMessage

/-- The game as it is saved. -/
def saved (game : Game σ) : SavedGame :=
  { version := SavedGame.currentVersion
    tokens := game.ledger.tokens
    stability := game.ledger.stability
    deck := game.deck.order
    history := game.history
    pending := game.pending
    status := game.status
    journal := game.journal
    turn := game.turn
    signature := game.content.signature }

/-- Goes on with a saved game.  It must have been made for this content, as far
as its signature tells, and must have no flaw.  A game saved as active is
judged anew. -/
def resume (content : Content) (saved : SavedGame) (source : σ) :
    Except SaveError (Game σ) :=
  if saved.signature ≠ "" ∧ saved.signature ≠ content.signature then
    .error (.otherContent saved.signature content.signature)
  else
    match saved.flaw? with
    | some flaw => .error flaw
    | none =>
      let game : Game σ :=
        { content, source
          deck := Deck.ofOrder saved.deck
          ledger := Ledger.opening saved.tokens saved.stability
          history := saved.history
          pending := saved.pending
          status := saved.status
          journal := saved.journal
          turn := saved.turn }
      .ok (if game.status.isTerminal then game else { game with status := game.judged })

/-- Replaces the journal. -/
def write (text : String) (game : Game σ) : Game σ :=
  { game with journal := text }

/-- Ends an active game when its counters or cards call for it. -/
def checkEnd (game : Game σ) : List Event × Game σ :=
  if game.judged.isTerminal && !game.status.isTerminal then
    ([.ended game.judged], { game with status := game.judged })
  else ([], game)

/-- Allows an action only while the game is active. -/
def whileActive {α : Type} (game : Game σ)
    (action : Outcome GameError α (Game σ)) : Outcome GameError α (Game σ) :=
  if game.status.isTerminal then .refuse (.gameOver game.status) game else action

/-- Corrects the tokens by hand. -/
def adjustTokens (delta : Int64) (game : Game σ) :
    Outcome GameError (Change Int64) (Game σ) :=
  game.whileActive
    (let (change, ledger) := game.ledger.changeTokens delta
    let (ended, game) := { game with ledger }.checkEnd
    .accept change ((if change.isReal then [.tokensChanged change] else []) ++ ended) game)

/-- Counts one applied card in the turn, and tells when it closed the turn. -/
def countCard (turn : Option TurnDie) : List Event × Option TurnDie :=
  match turn with
  | none => ([], none)
  | some turn =>
    let (closed, turn) := turn.countCard
    (if closed then [.turnEnded turn.number] else [], some turn)

variable [RandomSource σ]

/-- A new game. -/
def start (content : Content) (source : σ) : Game σ :=
  let (deck, source) := Deck.dealt source
  { content, source, deck
    ledger := content.rules.openingLedger
    history := History.empty
    pending := none
    status := .active
    journal := ""
    turn := none }

/-- Throws the game away and deals a new one in its place. -/
def restart (game : Game σ) : List Event × Game σ :=
  let (deck, source) := Deck.dealt game.source
  let game :=
    { game with
      source, deck
      ledger := game.content.rules.openingLedger
      history := History.empty
      pending := none
      status := .active
      journal := ""
      turn := none }
  ([.dealt game.deck.remaining], game)

/-- Rolls the turn die, between two turns and with no card in hand. -/
def roll (game : Game σ) : Outcome GameError TurnDie (Game σ) :=
  game.whileActive
    (if game.pending.isSome then .refuse .drawWhilePending game
    else
      match game.turn.filter TurnDie.inProgress with
      | some turn => .refuse (.turnInProgress turn.remaining) game
      | none =>
        let number := (game.turn.map (fun turn => turn.number + 1)).getD 1
        let (turn, source) := TurnDie.roll number game.source
        .accept turn [.turnRolled number turn.rolled] { game with turn := some turn, source })

/-- Draws the next card into the empty hand. -/
def draw (game : Game σ) : Outcome GameError Card (Game σ) :=
  game.whileActive
    (if game.pending.isSome then .refuse .drawWhilePending game
    else
      match game.deck.draw? game.content.rules.reshuffle game.source with
      | none => .refuse .emptyDeck game
      | some (draw, deck, source) =>
        .accept draw.card
          ((if draw.reshuffled then [.reshuffled (deck.remaining + 1)] else [])
            ++ [.drawn draw.card deck.remaining])
          { game with deck, source, pending := some draw.card })

/-- Applies a card with its prompt: it goes into the history and counts in the
turn, then the tokens change, then the blocks are pulled, and last the end of
the game is checked. -/
def applyPrompt (card : Card) (prompt : Prompt) (game : Game σ) :
    Outcome GameError Applied (Game σ) :=
  let (closing, turn) := countCard game.turn
  let (tokens, ledger) := game.ledger.changeTokens prompt.tokens
  let (_, pulls, ledger, source) :=
    Tower.pullMany game.content.rules.thresholds prompt.blocks.toNat ledger game.source
  let stability : Change UInt32 :=
    { before := game.ledger.stability, after := ledger.stability }
  let (ended, game) :=
    { game with
      source, ledger, turn
      pending := none
      history := game.history.push card }.checkEnd
  .accept { card, tokens, stability, status := game.status }
    (.applied card prompt.tokens prompt.blocks :: closing
      ++ (if tokens.isReal then [.tokensChanged tokens] else []) ++ pulls ++ ended)
    game

/-- Applies the card in hand. -/
def resolve (game : Game σ) : Outcome GameError Applied (Game σ) :=
  game.whileActive
    (match game.pending with
    | none => .refuse .noPendingCard game
    | some card =>
      match game.content.catalog.prompt? card with
      | none => .refuse (.unknownCard card) game
      | some prompt => game.applyPrompt card prompt)

end Game

end SoloJournal
