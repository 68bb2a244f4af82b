import SoloJournal.Proofs.Telling

/-!
# Refusals and endings

A refused move leaves no trace, neither in the game nor in its log.  Once a game
is over, every move but a new deal and writing is refused for this reason, so
that nothing but the journal changes any more.  The log tells the end of a game
when the status leaves the active one, and after it nothing but a new deal.
-/

namespace SoloJournal

namespace Move

/-- The moves that a game can refuse. -/
def IsAction : Move → Prop
  | .roll | .draw | .resolve | .adjustTokens _ => True
  | .write _ | .restart => False

/-- The text that is written last, or the journal as it was. -/
def lastWritten (journal : String) : List Move → String
  | [] => journal
  | .write text :: moves => lastWritten text moves
  | _ :: moves => lastWritten journal moves

theorem lastWritten_action {move : Move} (action : move.IsAction)
    (journal : String) (moves : List Move) :
    lastWritten journal (move :: moves) = lastWritten journal moves := by
  cases move with
  | write text => exact action.elim
  | _ => rfl

end Move

namespace Board.Tells

variable {rules : Rulebook} {board after : Board}

/-- Of a game that is over, nothing is told but a new deal. -/
theorem of_ended {events : List Event} (tells : Tells rules board events after)
    (ended : board.status ≠ .active) :
    events = [] ∨ ∃ rest, events = .dealt 52 :: rest := by
  cases tells with
  | nothing => exact .inl rfl
  | @told _ _ event rest bears _ =>
      right
      cases event with
      | dealt deck =>
          cases bears
          exact ⟨rest, rfl⟩
      | turnEnded | resumed | journalSaved => exact bears.elim
      | _ => exact absurd bears.1 ended

theorem after_ended {status : Status} {earlier later : List Event}
    (tells : Tells rules board (earlier ++ .ended status :: later) after) :
    later = [] ∨ ∃ rest, later = .dealt 52 :: rest := by
  rcases tells.cut with ⟨bears, rest, rfl, goesOn⟩ | ⟨_, _, _, same, _⟩
  · exact goesOn.of_ended bears.2
  · cases same

theorem dealt_between {first second : Status} {earlier between later : List Event}
    (tells : Tells rules board
      (earlier ++ .ended first :: (between ++ .ended second :: later)) after) :
    .dealt 52 ∈ between := by
  rcases tells.after_ended with none | ⟨rest, next⟩
  · simp at none
  · cases between with
    | nil => cases next
    | cons event between =>
        cases next
        exact List.mem_cons_self

theorem ended_not_mem_closure (board : Board) (event : Event)
    (status : Status) : .ended status ∉ board.closure event := by
  simp [closure]

/-- Events without a new deal tell an end just when they lead away from the
active status. -/
theorem ended_mem_iff {events : List Event}
    (tells : Tells rules board events after)
    (goesOn : ∀ deck, .dealt deck ∉ events) (status : Status) :
    .ended status ∈ events ↔
      board.status = .active ∧ after.status = status ∧ status ≠ .active := by
  induction tells with
  | @nothing board =>
      constructor
      · intro member
        cases member
      · rintro ⟨active, rfl, differs⟩
        exact absurd active differs
  | @told board after event events bears tells induction =>
      simp only [List.mem_cons, List.mem_append, not_or] at goesOn ⊢
      have later := induction (fun deck => (goesOn deck).2.2)
      have silent := ended_not_mem_closure board event status
      cases event with
      | dealt deck => exact absurd rfl (goesOn deck).1
      | ended last =>
          -- only a new deal could follow, so the status stays at this end
          rcases tells.of_ended bears.2 with rfl | ⟨rest, rfl⟩
          · cases tells
            constructor
            · intro member
              have same : status = last := by simpa [silent] using member
              exact ⟨bears.1, same.symm, same ▸ bears.2⟩
            · rintro ⟨-, rfl, -⟩
              exact .inl rfl
          · exact absurd List.mem_cons_self (goesOn 52).2.2
      | _ =>
          have kept : .ended status ∈ events ↔
              board.status = .active ∧ after.status = status ∧
                status ≠ .active :=
            later
          simpa [silent] using kept

end Board.Tells

namespace Game

variable {σ : Type}

theorem dealt_not_mem_checkEnd (game : Game σ) (deck : Nat) :
    .dealt deck ∉ game.checkEnd.1 := by
  unfold checkEnd
  split <;> simp

theorem dealt_not_mem_pullMany {source : Type} [RandomSource source]
    {thresholds : Thresholds} {count : Nat} {ledger : Ledger} {state : source}
    {deck : Nat} :
    .dealt deck ∉ (Tower.pullMany thresholds count ledger state).2.1 := by
  induction count generalizing ledger state with
  | zero => simp [Tower.pullMany]
  | succ count induction =>
      rw [Tower.pullMany]
      split
      case isTrue => simp
      case isFalse =>
        simp only [List.mem_append, not_or]
        constructor
        · intro member
          simp [Tower.pullEvents] at member
        · exact induction

theorem refusal?_over {game : Game σ} {move : Move}
    (ended : game.status.isTerminal = true) (action : move.IsAction) :
    game.refusal? move = some (.gameOver game.status) := by
  cases move with
  | write text => exact action.elim
  | restart => exact action.elim
  | _ => simp [refusal?, ended]

variable [RandomSource σ] {game : Game σ} {move : Move} {error : GameError}

/-- A move that is answered with an error has changed nothing and caused no
event, and it was refused for just this error. -/
theorem perform_eq_refuse (refused : (game.perform move).answer = .error error) :
    game.perform move = .refuse error game ∧
      game.refusal? move = some error := by
  have performs := performs_perform game move
  generalize game.perform move = outcome at performs refused
  cases performs with
  | refused refusal =>
      cases Except.error.inj refused
      exact ⟨rfl, refusal⟩
  | _ => cases refused

theorem perform_of_refusal (refusal : game.refusal? move = some error) :
    game.perform move = .refuse error game := by
  have performs := performs_perform game move
  generalize game.perform move = outcome at performs
  cases performs with
  | refused other =>
      cases Option.some.inj (refusal.symm.trans other)
      rfl
  | rolled active hand between =>
      simp [refusal?, active, hand, between, Status.isTerminal] at refusal
  | drawn active hand full =>
      simp [refusal?, active, hand, full, Deck.isEmpty, Status.isTerminal]
        at refusal
  | drawnAnew active hand empty again =>
      simp [refusal?, active, hand, again, Status.isTerminal] at refusal
  | resolved active hand known =>
      simp [refusal?, active, hand, known, Status.isTerminal] at refusal
  | adjusted active => simp [refusal?, active, Status.isTerminal] at refusal
  | written => cases refusal
  | restarted => cases refusal

theorem journal_perform (action : move.IsAction) :
    (game.perform move).after.journal = game.journal := by
  have performs := performs_perform game move
  generalize game.perform move = outcome at performs
  cases performs with
  | resolved active hand known =>
      show (game.applyPrompt _ _).after.journal = game.journal
      rw [applyPrompt_after active]
      rfl
  | adjusted active changed =>
      show (Game.checkEnd _).2.journal = game.journal
      rw [checkEnd_of_active (by exact active)]
  | written => exact action.elim
  | restarted => exact action.elim
  | _ => rfl

/-- Moves on a game that is over write in its journal and do nothing else. -/
theorem play_over (ended : game.status.isTerminal = true) {moves : List Move}
    (goesOn : .restart ∉ moves) :
    game.play moves =
      ([], game.write (Move.lastWritten game.journal moves)) := by
  induction moves generalizing game with
  | nil => rfl
  | cons move moves induction =>
      rw [List.mem_cons, not_or] at goesOn
      obtain ⟨other, goesOn⟩ := goesOn
      by_cases action : move.IsAction
      · have refused := perform_of_refusal (refusal?_over ended action)
        rw [play, refused, Outcome.refuse, induction ended goesOn,
          Move.lastWritten_action action]
        rfl
      · cases move with
        | write text =>
            rw [play, perform, Outcome.accept, induction (by exact ended) goesOn]
            rfl
        | restart => exact absurd rfl other
        | _ => exact absurd trivial action

/-- No move but a new deal tells one. -/
theorem dealt_not_mem_perform {deck : Nat} (goesOn : move ≠ .restart) :
    .dealt deck ∉ (game.perform move).events := by
  have performs := performs_perform game move
  generalize game.perform move = outcome at performs
  cases performs with
  | @resolved card prompt active hand known =>
      simp only [Outcome.map, applyPrompt, Outcome.accept, List.mem_append,
        List.mem_cons, not_or]
      refine ⟨⟨⟨⟨?_, ?_⟩, ?_⟩, dealt_not_mem_pullMany⟩,
        dealt_not_mem_checkEnd _ deck⟩
      · intro same
        cases same
      · cases game.turn <;> simp [countCard]
      · split <;> simp
  | adjusted active changed =>
      simp only [Outcome.accept, List.mem_append, not_or]
      refine ⟨?_, dealt_not_mem_checkEnd _ deck⟩
      split <;> simp
  | restarted => exact absurd rfl goesOn
  | _ => simp [Outcome.accept, Outcome.refuse]

/-- The end of a game is told just when a move takes its status away from the
active one. -/
theorem ended_mem_perform (game : Game σ) (move : Move) (status : Status) :
    .ended status ∈ (game.perform move).events ↔
      game.status = .active ∧ (game.perform move).after.status = status ∧
        status ≠ .active := by
  by_cases again : move = .restart
  · subst again
    constructor
    · intro member
      simp [perform, Outcome.accept, restart] at member
    · rintro ⟨-, rfl, differs⟩
      exact absurd rfl differs
  · exact (tells_perform game move).ended_mem_iff
      (fun _ => dealt_not_mem_perform again) status

/-- Refusals and endings.  A refused move leaves the whole game and its log as
they were, and it is refused just when and why `refusal?` says.  Once a game is
over, moves without a new deal change its journal at most, and every action is
refused because the game is over.  In a run of a new game a move tells the end
just when it takes the status away from the active one, and what follows in the
log, if anything does, is a new deal: so between two ends there is always
one. -/
theorem refusals_and_endings :
    (∀ (game : Game σ) (move : Move) (error : GameError),
      ((game.perform move).answer = .error error ↔
          game.refusal? move = some error) ∧
        ((game.perform move).answer = .error error →
          (game.perform move).after = game ∧
            (game.perform move).events = [])) ∧
      (∀ (game : Game σ) (moves : List Move), game.status.isTerminal = true →
        .restart ∉ moves →
          game.play moves =
              ([], game.write (Move.lastWritten game.journal moves)) ∧
            ∀ move, move.IsAction →
              ((game.afterMoves moves).perform move).answer =
                .error (.gameOver game.status)) ∧
      ∀ (content : Content) (source : σ) (moves : List Move),
        let game := (start content source).afterMoves moves
        let log := ((start content source).play moves).1
        (∀ move status, .ended status ∈ (game.perform move).events ↔
          game.status = .active ∧ (game.perform move).after.status = status ∧
            status ≠ .active) ∧
          (∀ earlier status later, log = earlier ++ .ended status :: later →
            later = [] ∨ ∃ rest, later = .dealt 52 :: rest) ∧
          ∀ earlier first between second later,
            log =
                earlier ++ .ended first :: (between ++ .ended second :: later) →
              .dealt 52 ∈ between := by
  refine ⟨?_, ?_, ?_⟩
  · intro game move error
    constructor
    · constructor
      · intro refused
        exact (perform_eq_refuse refused).2
      · intro refusal
        rw [perform_of_refusal refusal]
        rfl
    · intro refused
      rw [(perform_eq_refuse refused).1]
      exact ⟨rfl, rfl⟩
  · intro game moves ended goesOn
    have played := play_over ended goesOn
    refine ⟨played, ?_⟩
    intro move action
    rw [afterMoves, played]
    have refusal : (game.write (Move.lastWritten game.journal moves)).refusal?
        move = some (.gameOver game.status) :=
      refusal?_over (by exact ended) action
    rw [perform_of_refusal refusal]
    rfl
  · intro content source moves game log
    have tells : Board.Tells content.rules (Board.opening content.rules) log
        game.board :=
      board_start content source ▸ tells_play (start content source) moves
    refine ⟨ended_mem_perform game, ?_, ?_⟩
    · intro earlier status later cut
      rw [cut] at tells
      exact tells.after_ended
    · intro earlier first between second later cut
      rw [cut] at tells
      exact tells.dealt_between

end Game

namespace Content

def unwritten : Content :=
  sign (Rulebook.ofNumbers 5 10 .standard) { prompt? := fun _ => none }

end Content

namespace Game

/-- A card that has no prompt stays in the hand, and a lost game keeps all but
its journal. -/
theorem refusals_and_endings_unwritten :
    (let game := (start Content.unwritten Loaded.threes).afterMoves [.draw]
     (game.perform .resolve).answer =
          .error (.unknownCard ⟨.spades, .ace⟩) ∧
        (game.perform .resolve).after = game ∧
        (game.perform .resolve).events = []) ∧
      let lost := (start Content.practice Loaded.threes).afterMoves
        [.draw, .adjustTokens (-5)]
      lost.status = .tokensSpent ∧
        lost.play [.resolve, .write "I am lost.", .draw] =
          ([], lost.write "I am lost.") ∧
        ((lost.afterMoves [.resolve, .write "I am lost.", .draw]).perform
          .roll).answer = .error (.gameOver .tokensSpent) := by
  obtain ⟨refusals, ended, -⟩ := refusals_and_endings (σ := Loaded)
  constructor
  · intro game
    have refused : (game.perform .resolve).answer =
        .error (.unknownCard ⟨.spades, .ace⟩) :=
      (refusals game .resolve _).1.mpr (by decide +kernel)
    exact ⟨refused, (refusals game .resolve _).2 refused⟩
  · intro lost
    have status : lost.status = .tokensSpent := by decide +kernel
    have terminal : lost.status.isTerminal = true := by rw [status]; rfl
    obtain ⟨played, refused⟩ :=
      ended lost [.resolve, .write "I am lost.", .draw] terminal (by decide)
    rw [status] at refused
    exact ⟨status, played, refused .roll trivial⟩

end Game

end SoloJournal
