import SoloJournal.Proofs.Counters
import SoloJournal.Proofs.Loaded
import SoloJournal.Proofs.Runs

/-!
# The status of a game in play

The end of a game is checked by two of its moves only.  The other moves never
change what the counters and the cards call for: a draw takes a card from the
deck into the hand, and a deck that is dealt again cannot run out.  So the
status is at all times the one that the game is judged to have.
-/

namespace SoloJournal

namespace Content

/-- Content whose games begin with tokens and with a standing tower. -/
structure Playable (content : Content) : Prop where
  tokens : 0 < content.rules.mechanics.tokens.initial
  stability : 0 < content.rules.mechanics.stability.initial

/-- Content to try things with: every card costs a token and has a block
pulled. -/
def practice : Content :=
  sign (Rulebook.ofNumbers 5 10 .standard)
    { prompt? := fun card =>
        some { title := card.text, description := "", tokens := -1, blocks := 1 } }

theorem practice_playable : practice.Playable where
  tokens := by decide
  stability := by decide

end Content

namespace Status

/-- What each judgement says of a ledger without debt. -/
theorem judge_eq_iff {ledger : Ledger} (nonneg : 0 ≤ ledger.tokens)
    (unresolved : Nat) (canRunOut : Bool) :
    (judge ledger unresolved canRunOut = towerFallen ↔
        ledger.stability = 0) ∧
      (judge ledger unresolved canRunOut = tokensSpent ↔
        0 < ledger.stability ∧ ledger.tokens = 0) ∧
      (judge ledger unresolved canRunOut = deckSpent ↔
        0 < ledger.stability ∧ 0 < ledger.tokens ∧
          canRunOut = true ∧ unresolved = 0) := by
  by_cases fallen : ledger.stability = 0
  · have notStanding : ¬ 0 < ledger.stability := by simp [fallen]
    simp [judge, fallen]
  have standing : 0 < ledger.stability := UInt32.pos_iff_ne_zero.mpr fallen
  by_cases spent : ledger.tokens ≤ 0
  · have zero : ledger.tokens = 0 := Int64.le_antisymm spent nonneg
    simp [judge, fallen, standing, zero]
  have positive : 0 < ledger.tokens := Int64.not_le.mp spent
  have notZero : ledger.tokens ≠ 0 := by
    intro zero
    exact spent (zero ▸ Int64.le_refl 0)
  by_cases empty : canRunOut = true ∧ unresolved = 0
  · simp [judge, fallen, spent, standing, positive, notZero, empty]
  · have going : judge ledger unresolved canRunOut = active := by
      simp only [judge, fallen, spent, if_false]
      rw [if_neg (by simpa using empty)]
    simp [going, fallen, notZero, empty]

theorem tokens_pos_of_judge {ledger : Ledger} {unresolved : Nat}
    {canRunOut : Bool} (judged : judge ledger unresolved canRunOut = active) :
    0 < ledger.tokens := by
  apply Int64.not_le.mp
  intro spent
  unfold judge at judged
  rw [if_pos spent] at judged
  split at judged
  · cases judged
  · cases judged

end Status

namespace Game

variable {σ : Type}

theorem unresolved_eq (game : Game σ) :
    game.unresolved =
      game.deck.remaining + if game.pending.isSome then 1 else 0 := by
  cases hand : game.pending <;> simp [unresolved, hand]

theorem unresolved_eq_zero_iff {game : Game σ} :
    game.unresolved = 0 ↔ game.deck.order = [] ∧ game.pending = none := by
  cases hand : game.pending <;>
    simp [unresolved, hand, Deck.remaining, Deck.order]

/-- A game can be judged to be active with nothing but its counters, once it
has cards left. -/
theorem judged_eq_active {game : Game σ} (tokens : 0 < game.ledger.tokens)
    (stability : 0 < game.ledger.stability) (cards : 0 < game.unresolved) :
    game.judged = .active := by
  have standing : game.ledger.stability ≠ 0 :=
    UInt32.pos_iff_ne_zero.mp stability
  have solvent : ¬ game.ledger.tokens ≤ 0 := Int64.not_le.mpr tokens
  have some : game.unresolved ≠ 0 := Nat.ne_of_gt cards
  simp [judged, Status.judge, standing, solvent, some]

/-- A game that is still active is judged to be so. -/
structure Vigilant (content : Content) (game : Game σ) : Prop where
  content_eq : game.content = content
  judged_eq : game.status = .active → game.judged = .active

theorem vigilant_resume {content : Content} {saved : SavedGame} {source : σ}
    {game : Game σ} (resumed : resume content saved source = .ok game) :
    Vigilant content game where
  content_eq := content_resume resumed
  judged_eq := judged_resume resumed

variable [RandomSource σ]

theorem judged_start {content : Content} (playable : content.Playable)
    (source : σ) : (start content source).judged = .active := by
  apply judged_eq_active
  · have same : (start content source).ledger.tokens =
        content.rules.mechanics.tokens.initial :=
      Ledger.floor_of_nonneg (Int64.le_of_lt playable.tokens)
    rw [same]
    exact playable.tokens
  · exact playable.stability
  · have cards : (start content source).deck.remaining = 52 :=
      Deck.remaining_dealt source
    rw [unresolved, cards]
    exact Nat.lt_add_right _ (by decide)

theorem content_perform (game : Game σ) (move : Move) :
    (game.perform move).after.content = game.content := by
  have performs := performs_perform game move
  generalize game.perform move = outcome at performs
  cases performs with
  | resolved active hand known =>
      show ((game.applyPrompt _ _).after).content = game.content
      rw [applyPrompt_after active]
      rfl
  | adjusted active changed =>
      show (Game.checkEnd _).2.content = game.content
      rw [checkEnd_of_active (by exact active)]
  | _ => rfl

/-- Every move but a new deal leaves a game either with the status that it is
then judged to have, or with its status and its judgement as they were. -/
theorem status_perform (game : Game σ) {move : Move}
    (goesOn : move ≠ .restart) :
    (game.perform move).after.status = (game.perform move).after.judged ∨
      (game.perform move).after.status = game.status ∧
        (game.perform move).after.judged = game.judged := by
  have performs := performs_perform game move
  generalize game.perform move = outcome at performs
  cases performs with
  | refused => exact .inr ⟨rfl, rfl⟩
  | rolled => exact .inr ⟨rfl, rfl⟩
  | drawn active hand full =>
      -- the card leaves the deck for the hand, so as many are unresolved
      refine .inr ⟨rfl, ?_⟩
      simp [judged, unresolved, Outcome.accept, Deck.remaining, hand, full]
  | drawnAnew active hand empty again full =>
      -- a deck that is dealt again never counts as spent
      refine .inr ⟨rfl, ?_⟩
      simp [judged, Outcome.accept, again, Status.judge]
  | resolved active hand known =>
      left
      show (game.applyPrompt _ _).after.status =
        (game.applyPrompt _ _).after.judged
      rw [applyPrompt_after active]
      rfl
  | adjusted active changed =>
      left
      show (Game.checkEnd _).2.status = (Game.checkEnd _).2.judged
      rw [checkEnd_of_active (by exact active)]
      rfl
  | written => exact .inr ⟨rfl, rfl⟩
  | restarted => exact absurd rfl goesOn

theorem tokens_nonneg_perform {game : Game σ} (move : Move)
    (nonneg : 0 ≤ game.ledger.tokens) :
    0 ≤ (game.perform move).after.ledger.tokens := by
  have performs := performs_perform game move
  generalize game.perform move = outcome at performs
  cases performs with
  | @resolved card prompt active hand known =>
      show 0 ≤ (game.applyPrompt _ _).after.ledger.tokens
      rw [applyPrompt_after active]
      show 0 ≤ (Tower.pullMany _ _ _ _).2.2.1.tokens
      rw [Tower.pullMany_tokens]
      exact Ledger.changeTokens_nonneg _ _
  | adjusted active changed =>
      show 0 ≤ (Game.checkEnd _).2.ledger.tokens
      rw [checkEnd_of_active (by exact active)]
      cases changed
      exact Ledger.changeTokens_nonneg _ _
  | restarted => exact Ledger.opening_tokens_nonneg _ _
  | _ => exact nonneg

/-- What every run of a new game keeps: its content, a ledger without debt and
the status that it is judged to have. -/
structure Settled (content : Content) (game : Game σ) : Prop where
  content_eq : game.content = content
  tokens_nonneg : 0 ≤ game.ledger.tokens
  status_eq : game.status = game.judged

theorem settled_start {content : Content} (playable : content.Playable)
    (source : σ) : Settled content (start content source) where
  content_eq := rfl
  tokens_nonneg := Ledger.opening_tokens_nonneg _ _
  status_eq := (judged_start playable source).symm

theorem settled_perform {content : Content} (playable : content.Playable)
    (game : Game σ) (move : Move) (settled : Settled content game) :
    Settled content (game.perform move).after where
  content_eq := (content_perform game move).trans settled.content_eq
  tokens_nonneg := tokens_nonneg_perform move settled.tokens_nonneg
  status_eq := by
    by_cases again : move = .restart
    · subst again
      have dealt := judged_start (settled.content_eq ▸ playable) game.source
      exact dealt.symm
    · rcases status_perform game again with same | ⟨statusKept, judgedKept⟩
      · exact same
      · rw [statusKept, judgedKept]
        exact settled.status_eq

theorem settled_afterMoves {content : Content} (playable : content.Playable)
    (source : σ) (moves : List Move) :
    Settled content ((start content source).afterMoves moves) :=
  afterMoves_of_kept (settled_perform playable)
    (settled_start playable source) moves

theorem vigilant_perform {content : Content} (playable : content.Playable)
    (game : Game σ) (move : Move) (vigilant : Vigilant content game) :
    Vigilant content (game.perform move).after where
  content_eq := (content_perform game move).trans vigilant.content_eq
  judged_eq := by
    intro active
    by_cases again : move = .restart
    · subst again
      exact judged_start (vigilant.content_eq ▸ playable) game.source
    · rcases status_perform game again with same | ⟨statusKept, judgedKept⟩
      · exact same ▸ active
      · rw [judgedKept]
        exact vigilant.judged_eq (statusKept ▸ active)

theorem vigilant_afterMoves {content : Content} (playable : content.Playable)
    {saved : SavedGame} {source : σ} {game : Game σ}
    (resumed : resume content saved source = .ok game) (moves : List Move) :
    Vigilant content (game.afterMoves moves) :=
  afterMoves_of_kept (vigilant_perform playable)
    (vigilant_resume resumed) moves

/-- The status never goes stale.  In every run of a new game it is the one that
the counters and the cards call for, so that each ending is reached exactly
when its condition holds; and a game that was gone on with is active only as
long as its counters and cards call for no ending. -/
theorem status_never_stale {content : Content} (playable : content.Playable)
    (source : σ) :
    (∀ moves : List Move,
      let game := (start content source).afterMoves moves
      game.status =
          Status.judge game.ledger
            (game.deck.remaining + if game.pending.isSome then 1 else 0)
            (!content.rules.reshuffle) ∧
        0 ≤ game.ledger.tokens ∧
        (game.status = .towerFallen ↔ game.ledger.stability = 0) ∧
        (game.status = .tokensSpent ↔
          0 < game.ledger.stability ∧ game.ledger.tokens = 0) ∧
        (game.status = .deckSpent ↔
          0 < game.ledger.stability ∧ 0 < game.ledger.tokens ∧
            content.rules.reshuffle = false ∧
            game.deck.order = [] ∧ game.pending = none)) ∧
      ∀ (saved : SavedGame) (resumed : Game σ) (moves : List Move),
        resume content saved source = .ok resumed →
          let game := resumed.afterMoves moves
          game.status = .active →
            Status.judge game.ledger
              (game.deck.remaining + if game.pending.isSome then 1 else 0)
              (!content.rules.reshuffle) = .active := by
  constructor
  · intro moves game
    have settled : Settled content game :=
      settled_afterMoves playable source moves
    have statusEq : game.status =
        Status.judge game.ledger game.unresolved
          (!content.rules.reshuffle) := by
      rw [settled.status_eq, judged, settled.content_eq]
    obtain ⟨fallen, spent, exhausted⟩ :=
      Status.judge_eq_iff settled.tokens_nonneg game.unresolved
        (!content.rules.reshuffle)
    rw [← statusEq] at fallen spent exhausted
    rw [← unresolved_eq]
    refine ⟨statusEq, settled.tokens_nonneg, fallen, spent, ?_⟩
    rw [exhausted, unresolved_eq_zero_iff, Bool.not_eq_true']
  · intro saved resumed moves resumes game active
    have vigilant : Vigilant content game :=
      vigilant_afterMoves playable resumes moves
    have judgedEq := vigilant.judged_eq active
    rwa [judged, vigilant.content_eq, unresolved_eq] at judgedEq

/-- A game that gives up all its tokens is lost at once, and what is tried
afterwards does not change that. -/
theorem status_never_stale_spent :
    Content.practice.Playable ∧
      ((start Content.practice Loaded.threes).afterMoves
        [.adjustTokens (-5), .draw, .adjustTokens 3]).status =
          .tokensSpent := by
  have endings := (status_never_stale Content.practice_playable
    Loaded.threes).1 [.adjustTokens (-5), .draw, .adjustTokens 3]
  exact ⟨Content.practice_playable, endings.2.2.2.1.mpr (by decide +kernel)⟩

end Game

end SoloJournal
