import SoloJournal.Proofs.Conservation
import SoloJournal.Proofs.SavedText
import SoloJournal.Proofs.Turns

/-!
# Saving and going on

A game in play that is saved, taken back from its text and gone on with is the
same game.  For this its save must have no flaw, its ledger no debt and its
status must be the one that it is judged to have; every run of a new game keeps
all of these.
-/

namespace SoloJournal.Game

variable {σ : Type}

/-- Saves the game to a text, takes the saved game back from the text and goes
on with it, with the source of chance as it stands. -/
def reload (content : Content) (game : Game σ) : Except SaveError (Game σ) := do
  let saved ← SavedGame.ofText game.saved.toText
  resume content saved game.source

/-- What a game must keep for its save to be taken back and gone on with. -/
structure Resumable (content : Content) (game : Game σ) : Prop where
  vigilant : Vigilant content game
  tokens_nonneg : 0 ≤ game.ledger.tokens
  nodup_hand : (game.pending.toList ++ game.deck.pile).Nodup
  turn_consistent : TurnConsistent game.turn

/-- A save has no flaw where no card is twice in hand and deck and a die began
the turn. -/
theorem flaw?_saved_eq_none {game : Game σ}
    (nodup : (game.pending.toList ++ game.deck.pile).Nodup)
    (consistent : TurnConsistent game.turn) : game.saved.flaw? = none := by
  refine SavedGame.flaw?_eq_none_iff.mpr ⟨?_, consistent⟩
  have perm : (game.pending.toList ++ game.deck.order).Perm
      (game.pending.toList ++ game.deck.pile) :=
    (List.reverse_perm game.deck.pile).append_left _
  exact perm.nodup_iff.mpr nodup

namespace Resumable

variable {content : Content} {game : Game σ}

theorem flaw?_saved (resumable : Resumable content game) :
    game.saved.flaw? = none :=
  flaw?_saved_eq_none resumable.nodup_hand resumable.turn_consistent

theorem ofText_saved (resumable : Resumable content game) :
    SavedGame.ofText game.saved.toText = .ok game.saved :=
  SavedGame.ofText_toText_of_flawless rfl resumable.flaw?_saved

/-- A game with its own content and without debt, reopened from what is saved
of it. -/
theorem reopened_saved (resumable : Resumable content game) (source : σ) :
    reopened content game.saved source = { game with source } := by
  have deck : Deck.ofOrder game.deck.order = game.deck := by
    simp [Deck.ofOrder, Deck.order]
  have ledger : Ledger.opening game.ledger.tokens game.ledger.stability =
      game.ledger :=
    Ledger.opening_self resumable.tokens_nonneg
  have same := resumable.vigilant.content_eq
  subst same
  simp only [reopened, saved, deck, ledger]

/-- A save is gone on with as the game that it was made of, with whatever
source of chance is at hand. -/
theorem resume_saved (resumable : Resumable content game) (source : σ) :
    resume content game.saved source = .ok { game with source } := by
  refine resume_eq_ok_iff.mpr ⟨.inr ?_, resumable.flaw?_saved, ?_⟩
  · exact congrArg Content.signature resumable.vigilant.content_eq
  · rw [resumable.reopened_saved source]
    have status : resumedStatus { game with source } = game.status := by
      unfold resumedStatus
      split
      case isTrue => rfl
      case isFalse goesOn =>
        -- an active game is judged anew, and comes to the same
        have active : game.status = .active :=
          Status.isTerminal_eq_false_iff.mp (by simpa using goesOn)
        exact (resumable.vigilant.judged_eq active).trans active.symm
    rw [status]

end Resumable

theorem resumable_resume {content : Content} {saved : SavedGame} {source : σ}
    {game : Game σ} (resumed : resume content saved source = .ok game) :
    Resumable content game where
  vigilant := vigilant_resume resumed
  tokens_nonneg := by
    obtain ⟨-, -, rfl⟩ := resume_eq_ok_iff.mp resumed
    exact Ledger.opening_tokens_nonneg _ _
  nodup_hand := (Life.conserves_resume resumed).nodup_hand
  turn_consistent := by
    obtain ⟨-, flawless, rfl⟩ := resume_eq_ok_iff.mp resumed
    exact (SavedGame.flaw?_eq_none_iff.mp flawless).2

/-- What a game must keep to come back from its save as it was. -/
structure Lossless (content : Content) (game : Game σ) : Prop where
  settled : Settled content game
  nodup_hand : (game.pending.toList ++ game.deck.pile).Nodup
  turn_consistent : TurnConsistent game.turn

theorem Lossless.resumable {content : Content} {game : Game σ}
    (lossless : Lossless content game) : Resumable content game where
  vigilant :=
    { content_eq := lossless.settled.content_eq
      judged_eq := fun active => lossless.settled.status_eq.symm.trans active }
  tokens_nonneg := lossless.settled.tokens_nonneg
  nodup_hand := lossless.nodup_hand
  turn_consistent := lossless.turn_consistent

theorem ofText_saved {content : Content} {game : Game σ}
    (lossless : Lossless content game) :
    SavedGame.ofText game.saved.toText = .ok game.saved :=
  lossless.resumable.ofText_saved

theorem resume_saved {content : Content} {game : Game σ}
    (lossless : Lossless content game) (source : σ) :
    resume content game.saved source = .ok { game with source } :=
  lossless.resumable.resume_saved source

theorem reload_eq {content : Content} {game : Game σ}
    (lossless : Lossless content game) : reload content game = .ok game := by
  rw [reload, ofText_saved lossless]
  exact resume_saved lossless game.source

variable [RandomSource σ]

theorem lossless_start {content : Content} (playable : content.Playable)
    (source : σ) : Lossless content (start content source) where
  settled := settled_start playable source
  nodup_hand := (Life.conserves_start content source).nodup_hand
  turn_consistent := by rintro turn ⟨⟩

theorem nodup_hand_perform {game : Game σ} (move : Move)
    (nodup : (game.pending.toList ++ game.deck.pile).Nodup) :
    ((game.perform move).after.pending.toList ++
      (game.perform move).after.deck.pile).Nodup := by
  have conserves : Life.Conserves (Life.begun game.deck) game :=
    { drawn_append_pile := rfl
      nodup_dealt := nodup.of_append_right
      nodup_hand := nodup }
  exact (Life.conserves_next conserves move).nodup_hand

theorem resumable_perform [LawfulSource σ] {content : Content}
    (playable : content.Playable) {game : Game σ} {move : Move}
    (resumable : Resumable content game) (counts : CountsOn game move) :
    Resumable content (game.perform move).after where
  vigilant := vigilant_perform playable game move resumable.vigilant
  tokens_nonneg := tokens_nonneg_perform move resumable.tokens_nonneg
  nodup_hand := nodup_hand_perform move resumable.nodup_hand
  turn_consistent :=
    turnConsistent_perform fairDice_of_lawful resumable.turn_consistent counts

theorem lossless_perform [LawfulSource σ] {content : Content}
    (playable : content.Playable) (game : Game σ) (move : Move)
    (lossless : Lossless content game) (counts : CountsOn game move) :
    Lossless content (game.perform move).after where
  settled := settled_perform playable game move lossless.settled
  nodup_hand := nodup_hand_perform move lossless.nodup_hand
  turn_consistent :=
    turnConsistent_perform fairDice_of_lawful lossless.turn_consistent counts

theorem lossless_afterMoves [LawfulSource σ] {content : Content}
    (playable : content.Playable) (source : σ) {moves : List Move}
    (counted : (start content source).Along CountsOn moves) :
    Lossless content ((start content source).afterMoves moves) :=
  afterMoves_of_along (lossless_perform playable)
    (lossless_start playable source) counted

/-! ## Interrupted runs -/

/-- A stage of a run with interruptions: a move, or to save and go on. -/
inductive Stage where
  | step (move : Move)
  | reload

namespace Stage

def move? : Stage → Option Move
  | .step move => some move
  | .reload => none

end Stage

/-- What the moves of an interrupted run come to, and the game after it.  The
run breaks off where the game cannot be taken back. -/
def playStages (content : Content) (game : Game σ) :
    List Stage →
      Except SaveError
        (List (Outcome GameError MoveAnswer (Game σ)) × Game σ)
  | [] => .ok ([], game)
  | .step move :: stages => do
      let outcome := game.perform move
      let (outcomes, game) ← outcome.after.playStages content stages
      return (outcome :: outcomes, game)
  | .reload :: stages => do
      let game ← game.reload content
      game.playStages content stages

theorem playStages_eq [LawfulSource σ] {content : Content}
    (playable : content.Playable) {game : Game σ} {stages : List Stage}
    (lossless : Lossless content game)
    (counted : game.Along CountsOn (stages.filterMap Stage.move?)) :
    game.playStages content stages =
      .ok (game.outcomes (stages.filterMap Stage.move?),
        game.afterMoves (stages.filterMap Stage.move?)) := by
  induction stages generalizing game with
  | nil => rfl
  | cons stage stages induction =>
      cases stage with
      | step move =>
          obtain ⟨counts, later⟩ := counted
          have kept := lossless_perform playable game move lossless counts
          rw [playStages, induction kept later]
          rfl
      | reload =>
          -- the game comes back as it was, so nothing later can tell
          rw [playStages, reload_eq lossless]
          exact induction lossless counted

/-- Saving is transparent.  Whatever has been done in a new game, its save is
taken back from its text as it is, and going on with it gives the very same
game.  So a run that is interrupted anywhere, any number of times, to save the
game and go on comes to the same answers, events and games as the moves without
the interruptions. -/
theorem reload_transparent [LawfulSource σ] {content : Content}
    (playable : content.Playable) (source : σ) :
    (∀ moves : List Move, (start content source).Along CountsOn moves →
      let game := (start content source).afterMoves moves
      SavedGame.ofText game.saved.toText = .ok game.saved ∧
        resume content game.saved game.source = .ok game) ∧
      ∀ stages : List Stage,
        (start content source).Along CountsOn
            (stages.filterMap Stage.move?) →
          (start content source).playStages content stages =
            .ok
              ((start content source).outcomes
                (stages.filterMap Stage.move?),
              (start content source).afterMoves
                (stages.filterMap Stage.move?)) := by
  constructor
  · intro moves counted game
    have lossless : Lossless content game :=
      lossless_afterMoves playable source counted
    exact ⟨ofText_saved lossless, resume_saved lossless game.source⟩
  · intro stages counted
    exact playStages_eq playable (lossless_start playable source) counted

/-- A game that is lost with a card in hand and a note in its journal comes
back as it was. -/
theorem reload_transparent_lost :
    Content.practice.Playable ∧
      (start Content.practice Loaded.threes).Along CountsOn
        [.roll, .draw, .write "rain", .adjustTokens (-9)] ∧
      (let game := (start Content.practice Loaded.threes).afterMoves
        [.roll, .draw, .write "rain", .adjustTokens (-9)]
      game.status = .tokensSpent ∧
        SavedGame.ofText game.saved.toText = .ok game.saved ∧
        resume Content.practice game.saved game.source = .ok game) := by
  have counted : (start Content.practice Loaded.threes).Along CountsOn
      [.roll, .draw, .write "rain", .adjustTokens (-9)] :=
    along_countsOn (by decide)
  have transparent := (reload_transparent Content.practice_playable
    Loaded.threes).1 _ counted
  exact ⟨Content.practice_playable, counted, by decide +kernel, transparent⟩

end SoloJournal.Game
