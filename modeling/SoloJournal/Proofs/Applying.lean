import SoloJournal.Proofs.Pulls
import SoloJournal.Proofs.Telling

/-!
# Applying a card

`Applies` says all that an applied card comes to, part by part: the hand, the
history, the turn, both counters, the dice, the status, what is answered and
what is told.  An active game with a card in hand that has a prompt applies it
in just this way, whatever its counters and its source of chance.
-/

namespace SoloJournal

theorem Change.events_isReal {value : Type} [DecidableEq value]
    (change : Change value) (event : Event) :
    (if change.isReal then [event] else []) =
      if change.after = change.before then [] else [event] := by
  unfold isReal
  by_cases same : change.after = change.before
  · simp [same]
  · simp [same, Ne.symm same]

theorem PullAt.ofEvent?_unless {event : Event} (other : ofEvent? event = none)
    (silent : Prop) [Decidable silent] :
    (if silent then [] else [event]).filterMap ofEvent? = [] := by
  split
  · rfl
  · simp [other]

namespace Game

variable {σ : Type} [RandomSource σ]

/-- All that applying a card with its prompt comes to, when the tower takes
these pulls for it. -/
structure Applies (game : Game σ) (card : Card) (prompt : Prompt)
    (pulls : List PullAt) (outcome : Outcome GameError Applied (Game σ)) :
    Prop where
  pending_eq : outcome.after.pending = none
  deck_eq : outcome.after.deck = game.deck
  journal_eq : outcome.after.journal = game.journal
  /-- The rules, the catalog and the signature are those of the game. -/
  content_eq : outcome.after.content = game.content
  history_eq : outcome.after.history.cards =
    (card :: game.history.cards).take 10
  turn_eq : outcome.after.turn = game.turn.map Board.countDown
  tokens_eq : outcome.after.ledger.tokens.toInt =
    max 0 (max Int64.minValue.toInt
      (min (game.ledger.tokens.toInt + prompt.tokens.toInt)
        Int64.maxValue.toInt))
  /-- Each pull is made at what the one before it has left, with the threshold
  of the band that this is in. -/
  descends : Tower.Descends game.content.rules.thresholds
    game.ledger.stability pulls outcome.after.ledger.stability
  length_le : pulls.length ≤ prompt.blocks.toNat
  length_eq : pulls.length = prompt.blocks.toNat ∨
    outcome.after.ledger.stability = 0
  rollDice_eq :
    RandomSource.rollDice
        (pulls.map (fun pulled => pulled.stability.toNat)).sum game.source =
      (pulls.flatMap (fun pulled => pulled.pull.rolls), outcome.after.source)
  status_eq : outcome.after.status =
    Status.judge outcome.after.ledger outcome.after.deck.remaining
      (!game.content.rules.reshuffle)
  answer_eq : outcome.answer = .ok
    { card
      tokens := ⟨game.ledger.tokens, outcome.after.ledger.tokens⟩
      stability := ⟨game.ledger.stability, outcome.after.ledger.stability⟩
      status := outcome.after.status }
  events_eq : outcome.events =
    .applied card prompt.tokens prompt.blocks ::
      (((game.turn.filter (fun turn => turn.remaining == 1)).map
          (fun turn => .turnEnded turn.number)).toList
        ++ (if outcome.after.ledger.tokens = game.ledger.tokens then []
          else [.tokensChanged
            ⟨game.ledger.tokens, outcome.after.ledger.tokens⟩])
        ++ pulls.flatMap PullAt.events
        ++ (if outcome.after.status = .active then []
          else [.ended outcome.after.status]))

theorem closing_countCard (turn : Option TurnDie) :
    (countCard turn).1 =
      ((turn.filter (fun turn => turn.remaining == 1)).map
        (fun turn => Event.turnEnded turn.number)).toList := by
  cases turn with
  | none => rfl
  | some turn =>
      have closes := turn.countCard_closes
      have number := turn.number_countCard
      by_cases last : turn.remaining = 1
      · simp [countCard, closes, number, Option.filter, last]
      · simp [countCard, closes, Option.filter, last]

omit [RandomSource σ] in
theorem events_checkEnd {game : Game σ} (active : game.status = .active) :
    game.checkEnd.1 =
      if game.judged = .active then [] else [.ended game.judged] := by
  cases judgement : game.judged <;>
    simp [checkEnd, judgement, active, Status.isTerminal]

theorem applies_applyPrompt {game : Game σ} {card : Card} {prompt : Prompt}
    (active : game.status = .active) :
    ∃ pulls, Applies game card prompt pulls (game.applyPrompt card prompt) := by
  obtain ⟨pulls, course⟩ := Tower.course_pullMany game.content.rules.thresholds
    prompt.blocks.toNat (game.ledger.changeTokens prompt.tokens).2 game.source
  have after := @applyPrompt_after σ _ card prompt game active
  have tokens : (game.withEffects card prompt).ledger.tokens =
      Ledger.creditedTokens game.ledger.tokens prompt.tokens :=
    Tower.pullMany_tokens _ _ _ _
  have judged : (game.withEffects card prompt).judged =
      Status.judge (game.withEffects card prompt).ledger game.deck.remaining
        (!game.content.rules.reshuffle) :=
    rfl
  refine ⟨pulls, ?_⟩
  exact {
    pending_eq := by rw [after]; rfl
    deck_eq := by rw [after]; rfl
    journal_eq := by rw [after]; rfl
    content_eq := by rw [after]; rfl
    history_eq := by rw [after]; rfl
    turn_eq := by rw [after]; exact Board.turn_countCard game.turn
    tokens_eq := by
      rw [after, ← Ledger.toInt_creditedTokens, ← tokens]
    descends := by rw [after]; exact course.descends
    length_le := course.length_le
    length_eq := by rw [after]; exact course.length_eq
    rollDice_eq := by rw [after]; exact course.rollDice_eq
    status_eq := by rw [after]; exact judged
    answer_eq := by
      -- the status is read after the end of the game was checked
      have answered : (game.applyPrompt card prompt).answer = .ok
          { card
            tokens :=
              ⟨game.ledger.tokens,
                Ledger.creditedTokens game.ledger.tokens prompt.tokens⟩
            stability :=
              ⟨game.ledger.stability,
                (game.withEffects card prompt).ledger.stability⟩
            status := (game.withEffects card prompt).checkEnd.2.status } :=
        rfl
      rw [answered, after, ← tokens, checkEnd_of_active (by exact active)]
    events_eq := by
      have told : (game.applyPrompt card prompt).events =
          .applied card prompt.tokens prompt.blocks ::
            ((countCard game.turn).1
              ++ (if (game.ledger.changeTokens prompt.tokens).1.isReal then
                  [.tokensChanged (game.ledger.changeTokens prompt.tokens).1]
                else [])
              ++ (Tower.pullMany game.content.rules.thresholds
                prompt.blocks.toNat (game.ledger.changeTokens prompt.tokens).2
                game.source).2.1
              ++ (game.withEffects card prompt).checkEnd.1) :=
        rfl
      rw [told, closing_countCard, course.events_eq,
        events_checkEnd (by exact active), Change.events_isReal, after, tokens]
      rfl }

/-- An applied card tells the pulls that are made for it, and no others. -/
theorem Applies.ofEvent?_events {game : Game σ} {card : Card}
    {prompt : Prompt} {pulls : List PullAt}
    {outcome : Outcome GameError Applied (Game σ)}
    (applies : Applies game card prompt pulls outcome) :
    outcome.events.filterMap PullAt.ofEvent? = pulls := by
  have closing (turn : Option TurnDie) :
      (turn.map (fun turn => Event.turnEnded turn.number)).toList.filterMap
        PullAt.ofEvent? = [] := by
    cases turn <;> rfl
  rw [applies.events_eq, List.filterMap_cons_none rfl]
  simp only [List.filterMap_append]
  rw [closing, PullAt.ofEvent?_unless rfl, PullAt.ofEvent?_flatMap_events,
    PullAt.ofEvent?_unless rfl, List.append_nil, List.nil_append]
  rfl

theorem resolve_eq_applyPrompt {game : Game σ} {card : Card}
    {prompt : Prompt} (active : game.status = .active)
    (hand : game.pending = some card)
    (known : game.content.catalog.prompt? card = some prompt) :
    game.resolve = game.applyPrompt card prompt := by
  simp [resolve, whileActive, active, hand, known, Status.isTerminal]

/-- Only an active game with a card in hand that has a prompt applies it. -/
theorem resolve_accepted_iff {game : Game σ} :
    (∃ applied, game.resolve.answer = .ok applied) ↔
      game.status = .active ∧ ∃ card prompt, game.pending = some card ∧
        game.content.catalog.prompt? card = some prompt := by
  constructor
  · rintro ⟨applied, accepted⟩
    have answer : (game.perform .resolve).answer = .ok (.resolved applied) :=
      congrArg (Except.map MoveAnswer.resolved) accepted
    have performs := performs_resolve game
    generalize game.perform .resolve = outcome at performs answer
    cases performs with
    | refused => cases answer
    | resolved active hand known => exact ⟨active, _, _, hand, known⟩
  · rintro ⟨active, card, prompt, hand, known⟩
    obtain ⟨pulls, applies⟩ := @applies_applyPrompt σ _ game card prompt active
    rw [resolve_eq_applyPrompt active hand known]
    exact ⟨_, applies.answer_eq⟩

/-- Applying a card from end to end.  It is accepted just when the game is
active and its card in hand has a prompt.  Then the card leaves the hand for the
history, the turn has one card less to come, the tokens change by what the
prompt says, within their type and not below zero, and as many pulls are made as
it says, or the tower falls; the status is the one that the counters and the
cards of the deck call for.  The answer tells the card, both counters before and
after it and this status, the events tell each of these changes in its order,
and the deck, the journal and the content stay as they are. -/
theorem card_applied_end_to_end (game : Game σ) :
    ((∃ applied, game.resolve.answer = .ok applied) ↔
        game.status = .active ∧ ∃ card prompt, game.pending = some card ∧
          game.content.catalog.prompt? card = some prompt) ∧
      ∀ card prompt applied, game.pending = some card →
        game.content.catalog.prompt? card = some prompt →
          game.resolve.answer = .ok applied →
            ∃ pulls, Applies game card prompt pulls game.resolve := by
  constructor
  · exact resolve_accepted_iff
  · intro card prompt applied hand known accepted
    obtain ⟨active, -⟩ := resolve_accepted_iff.mp ⟨applied, accepted⟩
    rw [resolve_eq_applyPrompt active hand known]
    exact applies_applyPrompt active

end Game

namespace Content

/-- Content in which every card costs more tokens than there are and has nine
blocks pulled. -/
def stormy : Content :=
  sign (Rulebook.ofNumbers 5 7 .standard)
    { prompt? := fun card =>
        some { title := card.text, description := "", tokens := -9, blocks := 9 } }

end Content

namespace Game

/-- A game with the last card of its turn in hand, whose tower falls in the
fourth pull. -/
def brink : Game Scripted where
  content := Content.stormy
  source := Tower.fallingDice
  deck := { pile := [⟨.hearts, .two⟩] }
  ledger := { tokens := 5, stability := 7 }
  history := History.ofList Card.all
  pending := some ⟨.spades, .king⟩
  status := .active
  journal := "The wind rises."
  turn := some ⟨3, 2, 1⟩

/-- The card takes all tokens although the tower falls, the tower is why the
game is lost, and the four is the next die after four of nine pulls. -/
theorem card_applied_end_to_end_fallen :
    ∃ prompt pulls, Applies brink ⟨.spades, .king⟩ prompt pulls brink.resolve ∧
      brink.resolve.after.ledger = { tokens := 0, stability := 0 } ∧
      brink.resolve.after.status = .towerFallen ∧
      brink.resolve.after.turn = some ⟨3, 2, 0⟩ ∧
      brink.resolve.after.source.faces = [4] ∧
      brink.resolve.events.take 3 =
        [.applied ⟨.spades, .king⟩ (-9) 9, .turnEnded 3,
          .tokensChanged ⟨5, 0⟩] := by
  obtain ⟨accepts, applies⟩ := card_applied_end_to_end brink
  obtain ⟨applied, accepted⟩ := accepts.mpr ⟨rfl, _, _, rfl, rfl⟩
  obtain ⟨pulls, all⟩ := applies _ _ applied rfl rfl accepted
  exact ⟨_, pulls, all, by decide +kernel, by decide +kernel, by decide +kernel,
    by decide +kernel, by decide +kernel⟩

end Game

end SoloJournal
