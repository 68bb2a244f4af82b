import SoloJournal.Play.Move
import SoloJournal.Proofs.Deal
import SoloJournal.Proofs.Resuming

/-!
# What a move can do

`refusal?` says when and why a game refuses a move.  `Performs` lists, for each
move that is not refused, its answer, its events and the game after it.  Every
later fact about moves is a case analysis on `performs_perform`.
-/

namespace SoloJournal

namespace Outcome

variable {ε α β τ : Type}

@[simp] theorem map_refuse (convert : α → β) (reason : ε) (state : τ) :
    (refuse reason state : Outcome ε α τ).map convert = refuse reason state :=
  rfl

@[simp] theorem map_accept (convert : α → β) (answer : α)
    (events : List Event) (after : τ) :
    (accept answer events after : Outcome ε α τ).map convert =
      accept (convert answer) events after :=
  rfl

end Outcome

namespace Game

variable {σ : Type}

/-- Why a game refuses a move as it stands, if it does.  The reasons are tried
in the order in which they are written. -/
def refusal? (game : Game σ) : Move → Option GameError
  | .roll =>
      if game.status.isTerminal then some (.gameOver game.status)
      else if game.pending.isSome then some .drawWhilePending
      else
        (game.turn.filter TurnDie.inProgress).map
          (fun turn => .turnInProgress turn.remaining)
  | .draw =>
      if game.status.isTerminal then some (.gameOver game.status)
      else if game.pending.isSome then some .drawWhilePending
      else if game.deck.isEmpty && !game.content.rules.reshuffle then
        some .emptyDeck
      else none
  | .resolve =>
      if game.status.isTerminal then some (.gameOver game.status)
      else
        match game.pending with
        | none => some .noPendingCard
        | some card =>
          if (game.content.catalog.prompt? card).isNone then
            some (.unknownCard card)
          else none
  | .adjustTokens _ =>
      if game.status.isTerminal then some (.gameOver game.status) else none
  | .write _ => none
  | .restart => none

/-- The number of the turn that the next roll begins. -/
def nextTurn (game : Game σ) : UInt32 :=
  (game.turn.map (fun turn => turn.number + 1)).getD 1

/-- Checking the end of an active game gives it the status that it is judged
to have, and changes nothing else. -/
theorem checkEnd_of_active {game : Game σ} (active : game.status = .active) :
    game.checkEnd.2 = { game with status := game.judged } := by
  cases judgement : game.judged with
  | active =>
      have same : game.checkEnd.2 = game := by
        simp [checkEnd, judgement, Status.isTerminal]
      rw [same, ← active]
  | deckSpent => simp [checkEnd, judgement, active, Status.isTerminal]
  | towerFallen => simp [checkEnd, judgement, active, Status.isTerminal]
  | tokensSpent => simp [checkEnd, judgement, active, Status.isTerminal]

variable [RandomSource σ]

/-- The game after the effects of a card, before its end is checked. -/
def withEffects (card : Card) (prompt : Prompt) (game : Game σ) : Game σ :=
  let pulled := Tower.pullMany game.content.rules.thresholds
    prompt.blocks.toNat (game.ledger.changeTokens prompt.tokens).2 game.source
  { game with
    source := pulled.2.2.2
    ledger := pulled.2.2.1
    turn := (countCard game.turn).2
    pending := none
    history := game.history.push card }

/-- An applied card leaves an active game with its effects, and with the status
that it is then judged to have. -/
theorem applyPrompt_after {card : Card} {prompt : Prompt} {game : Game σ}
    (active : game.status = .active) :
    (game.applyPrompt card prompt).after =
      { game.withEffects card prompt with
        status := (game.withEffects card prompt).judged } :=
  checkEnd_of_active active

/-- What performing a move can come to. -/
inductive Performs (game : Game σ) :
    Move → Outcome GameError MoveAnswer (Game σ) → Prop where
  | refused {move : Move} {error : GameError} :
      game.refusal? move = some error →
      Performs game move (.refuse error game)
  | rolled {face : UInt8} {source : σ} :
      game.status = .active →
      game.pending = none →
      game.turn.filter TurnDie.inProgress = none →
      RandomSource.rollDie game.source = (face, source) →
      Performs game .roll
        (.accept (.rolled ⟨game.nextTurn, face, face⟩)
          [.turnRolled game.nextTurn face]
          { game with turn := some ⟨game.nextTurn, face, face⟩, source })
  | drawn {card : Card} {pile : List Card} :
      game.status = .active →
      game.pending = none →
      game.deck.pile = card :: pile →
      Performs game .draw
        (.accept (.drawn card) [.drawn card pile.length]
          { game with deck := { pile }, pending := some card })
  | drawnAnew {card : Card} {pile : List Card} :
      game.status = .active →
      game.pending = none →
      game.deck.pile = [] →
      game.content.rules.reshuffle = true →
      (Deck.dealt game.source).1.pile = card :: pile →
      Performs game .draw
        (.accept (.drawn card)
          [.reshuffled (pile.length + 1), .drawn card pile.length]
          { game with
            deck := { pile }
            source := (Deck.dealt game.source).2
            pending := some card })
  | resolved {card : Card} {prompt : Prompt} :
      game.status = .active →
      game.pending = some card →
      game.content.catalog.prompt? card = some prompt →
      Performs game .resolve
        ((game.applyPrompt card prompt).map MoveAnswer.resolved)
  | adjusted {delta : Int64} {change : Change Int64} {ledger : Ledger} :
      game.status = .active →
      game.ledger.changeTokens delta = (change, ledger) →
      Performs game (.adjustTokens delta)
        (.accept (.adjusted change)
          ((if change.isReal then [.tokensChanged change] else [])
            ++ { game with ledger }.checkEnd.1)
          { game with ledger }.checkEnd.2)
  | written {text : String} :
      Performs game (.write text) (.accept .done [] (game.write text))
  | restarted :
      Performs game .restart (.accept .done game.restart.1 game.restart.2)

private theorem performs_refused {game : Game σ} {move : Move}
    (error : GameError) (refusal : game.refusal? move = some error)
    (same : game.perform move = .refuse error game) :
    Performs game move (game.perform move) := by
  rw [same]
  exact .refused refusal

theorem performs_roll (game : Game σ) :
    Performs game .roll (game.perform .roll) := by
  by_cases ended : game.status.isTerminal = true
  · exact performs_refused (.gameOver game.status)
      (by simp [refusal?, ended]) (by simp [perform, roll, whileActive, ended])
  have active : game.status = .active := by
    simpa [Status.isTerminal_eq_false_iff] using ended
  cases hand : game.pending with
  | some card =>
      exact performs_refused .drawWhilePending
        (by simp [refusal?, ended, hand])
        (by simp [perform, roll, whileActive, ended, hand])
  | none =>
      cases between : game.turn.filter TurnDie.inProgress with
      | some turn =>
          exact performs_refused (.turnInProgress turn.remaining)
            (by simp [refusal?, ended, hand, between])
            (by simp [perform, roll, whileActive, ended, hand, between])
      | none =>
          have same : game.perform .roll =
              .accept
                (.rolled ⟨game.nextTurn, (RandomSource.rollDie game.source).1,
                  (RandomSource.rollDie game.source).1⟩)
                [.turnRolled game.nextTurn (RandomSource.rollDie game.source).1]
                { game with
                  turn := some ⟨game.nextTurn,
                    (RandomSource.rollDie game.source).1,
                    (RandomSource.rollDie game.source).1⟩
                  source := (RandomSource.rollDie game.source).2 } := by
            simp [perform, roll, whileActive, ended, hand, between,
              TurnDie.roll, nextTurn]
          rw [same]
          exact .rolled active hand between rfl

theorem performs_draw (game : Game σ) :
    Performs game .draw (game.perform .draw) := by
  by_cases ended : game.status.isTerminal = true
  · exact performs_refused (.gameOver game.status)
      (by simp [refusal?, ended]) (by simp [perform, draw, whileActive, ended])
  have active : game.status = .active := by
    simpa [Status.isTerminal_eq_false_iff] using ended
  cases hand : game.pending with
  | some card =>
      exact performs_refused .drawWhilePending
        (by simp [refusal?, ended, hand])
        (by simp [perform, draw, whileActive, ended, hand])
  | none =>
      have draws := Deck.draws_draw? game.content.rules.reshuffle
        game.deck game.source
      cases result : game.deck.draw? game.content.rules.reshuffle
          game.source with
      | none =>
          rw [result] at draws
          cases draws with
          | nothing empty once =>
              exact performs_refused .emptyDeck
                (by simp [refusal?, ended, hand, Deck.isEmpty, empty, once])
                (by simp [perform, draw, whileActive, ended, hand, result])
      | some taken =>
          have same : game.perform .draw =
              .accept (.drawn taken.1.card)
                ((if taken.1.reshuffled then
                    [.reshuffled (taken.2.1.remaining + 1)] else [])
                  ++ [.drawn taken.1.card taken.2.1.remaining])
                { game with
                  deck := taken.2.1, source := taken.2.2
                  pending := some taken.1.card } := by
            simp [perform, draw, whileActive, ended, hand, result]
          rw [same]
          rw [result] at draws
          cases draws with
          | top full => exact .drawn active hand full
          | anew empty again full =>
              exact .drawnAnew active hand empty again full

theorem performs_resolve (game : Game σ) :
    Performs game .resolve (game.perform .resolve) := by
  by_cases ended : game.status.isTerminal = true
  · exact performs_refused (.gameOver game.status)
      (by simp [refusal?, ended])
      (by simp [perform, resolve, whileActive, ended])
  have active : game.status = .active := by
    simpa [Status.isTerminal_eq_false_iff] using ended
  cases hand : game.pending with
  | none =>
      exact performs_refused .noPendingCard
        (by simp [refusal?, ended, hand])
        (by simp [perform, resolve, whileActive, ended, hand])
  | some card =>
      cases known : game.content.catalog.prompt? card with
      | none =>
          exact performs_refused (.unknownCard card)
            (by simp [refusal?, ended, hand, known])
            (by simp [perform, resolve, whileActive, ended, hand, known])
      | some prompt =>
          have same : game.perform .resolve =
              (game.applyPrompt card prompt).map MoveAnswer.resolved := by
            simp [perform, resolve, whileActive, ended, hand, known]
          rw [same]
          exact .resolved active hand known

theorem performs_adjustTokens (delta : Int64) (game : Game σ) :
    Performs game (.adjustTokens delta) (game.perform (.adjustTokens delta)) := by
  by_cases ended : game.status.isTerminal = true
  · exact performs_refused (.gameOver game.status)
      (by simp [refusal?, ended])
      (by simp [perform, adjustTokens, whileActive, ended])
  have active : game.status = .active := by
    simpa [Status.isTerminal_eq_false_iff] using ended
  have same : game.perform (.adjustTokens delta) =
      .accept (.adjusted (game.ledger.changeTokens delta).1)
        ((if (game.ledger.changeTokens delta).1.isReal then
            [.tokensChanged (game.ledger.changeTokens delta).1] else [])
          ++ Prod.fst (checkEnd
            { game with ledger := (game.ledger.changeTokens delta).2 }))
        (Prod.snd (checkEnd
          { game with ledger := (game.ledger.changeTokens delta).2 })) := by
    simp [perform, adjustTokens, whileActive, ended]
  rw [same]
  exact .adjusted active rfl

/-- Every move comes to what `Performs` lists for it. -/
theorem performs_perform (game : Game σ) (move : Move) :
    Performs game move (game.perform move) := by
  cases move with
  | roll => exact performs_roll game
  | draw => exact performs_draw game
  | resolve => exact performs_resolve game
  | adjustTokens delta => exact performs_adjustTokens delta game
  | write text => exact .written
  | restart => exact .restarted

end Game

end SoloJournal
