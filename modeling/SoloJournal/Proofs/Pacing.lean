import SoloJournal.Proofs.Applying
import SoloJournal.Proofs.Loaded
import SoloJournal.Proofs.Pace

/-!
# The turn die paces a game

Every move keeps the pace of turns, whether it is accepted or refused, so the
log of a run does, and each of its deals is steady.
-/

namespace SoloJournal

theorem PullAt.quiet_of_mem_events {pulled : PullAt} {event : Event}
    (member : event ∈ pulled.events) : event.IsQuiet := by
  unfold events at member
  rcases List.mem_cons.mp member with rfl | changed
  · trivial
  · split at changed
    · rw [List.mem_singleton.mp changed]
      trivial
    · cases changed

namespace Board

theorem number_countDown (turn : TurnDie) :
    (countDown turn).number = turn.number := by
  unfold countDown
  split <;> rfl

theorem remaining_countDown (turn : TurnDie) :
    (countDown turn).remaining.toNat = turn.remaining.toNat - 1 := by
  unfold countDown
  split
  case isTrue left => exact UInt8.toNat_sub_of_le _ _ left
  case isFalse spent =>
    have none : turn.remaining = 0 := by
      simpa [UInt8.pos_iff_ne_zero] using spent
    simp [none]

end Board

namespace Game

variable {σ : Type}

def cardsLeft (game : Game σ) : Nat :=
  (game.turn.map (fun turn => turn.remaining.toNat)).getD 0

def pace (game : Game σ) : Pace where
  begun := game.turnCount
  left := game.cardsLeft
  due := false

theorem cardsLeft_eq_zero_iff {game : Game σ} :
    game.cardsLeft = 0 ↔
      ∀ last, game.turn = some last → last.remaining = 0 := by
  cases turn : game.turn with
  | none => simp [cardsLeft, turn]
  | some last => simp [cardsLeft, turn, ← UInt8.toNat_inj]

theorem filter_inProgress_eq_none_iff {game : Game σ} :
    game.turn.filter TurnDie.inProgress = none ↔ game.cardsLeft = 0 := by
  rw [cardsLeft_eq_zero_iff, Option.filter_eq_none_iff]
  simp [TurnDie.inProgress, UInt8.pos_iff_ne_zero]

theorem quiet_of_mem_checkEnd {game : Game σ} {event : Event}
    (member : event ∈ game.checkEnd.1) : event.IsQuiet := by
  unfold checkEnd at member
  split at member
  · rw [List.mem_singleton.mp member]
    trivial
  · cases member

/-- After an applied card the end of its turn is told when it was the last one,
and then no end is due. -/
theorem paces_closing (game : Game σ) :
    Pace.Paces ⟨game.turnCount, game.cardsLeft - 1, game.cardsLeft == 1⟩
      ((game.turn.filter (fun turn => turn.remaining == 1)).map
        (fun turn => Event.turnEnded turn.number)).toList
      ⟨game.turnCount, game.cardsLeft - 1, false⟩ := by
  cases turn : game.turn with
  | none => simpa [turnCount, cardsLeft, turn] using Pace.Paces.nothing
  | some last =>
      have left : game.cardsLeft = last.remaining.toNat := by
        simp [cardsLeft, turn]
      have begun : game.turnCount = last.number.toNat := by
        simp [turnCount, turn]
      by_cases closes : last.remaining = 1
      · have one : game.cardsLeft = 1 := by simp [left, closes]
        simp only [one, Option.filter, closes, beq_self_eq_true, if_true]
        exact .beat (.ended begun.symm) .nothing
      · have notOne : (game.cardsLeft == 1) = false := by
          rw [left, beq_eq_false_iff_ne]
          intro same
          exact closes (UInt8.toNat_inj.mp same)
        simpa [notOne, Option.filter, closes] using Pace.Paces.nothing

variable [RandomSource σ]

theorem Applies.pace_after {game : Game σ} {card : Card} {prompt : Prompt}
    {pulls : List PullAt} {outcome : Outcome GameError Applied (Game σ)}
    (applies : Applies game card prompt pulls outcome) :
    outcome.after.pace = ⟨game.turnCount, game.cardsLeft - 1, false⟩ := by
  unfold pace turnCount cardsLeft
  rw [applies.turn_eq]
  cases game.turn with
  | none => rfl
  | some last =>
      simp [Board.number_countDown, Board.remaining_countDown]

theorem Applies.paces {game : Game σ} {card : Card} {prompt : Prompt}
    {pulls : List PullAt} {outcome : Outcome GameError Applied (Game σ)}
    (applies : Applies game card prompt pulls outcome) :
    Pace.Paces game.pace outcome.events outcome.after.pace := by
  rw [applies.events_eq, applies.pace_after]
  apply Pace.Paces.beat .applied
  rw [List.append_assoc, List.append_assoc]
  apply (paces_closing game).append
  apply Pace.Paces.of_quiet
  intro event member
  rw [List.mem_append, List.mem_append] at member
  rcases member with changed | pulled | ended
  · split at changed
    · cases changed
    · rw [List.mem_singleton.mp changed]
      trivial
  · obtain ⟨pull, -, told⟩ := List.mem_flatMap.mp pulled
    exact PullAt.quiet_of_mem_events told
  · split at ended
    · cases ended
    · rw [List.mem_singleton.mp ended]
      trivial

theorem paces_perform (fair : FairDice σ) {game : Game σ} {move : Move}
    (counts : CountsOn game move) :
    Pace.Paces game.pace (game.perform move).events
      (game.perform move).after.pace := by
  have performs := performs_perform game move
  unfold CountsOn at counts
  generalize game.perform move = outcome at performs counts
  cases performs with
  | refused => exact .nothing
  | @rolled face source active hand between die =>
      have number : game.nextTurn.toNat = game.turnCount + 1 :=
        toNat_nextTurn fun last same => counts last _ same rfl
      have spent : game.cardsLeft = 0 :=
        filter_inProgress_eq_none_iff.mp between
      obtain ⟨lower, upper⟩ := fair game.source
      rw [die] at lower upper
      have begins := Pace.Beats.rolled number lower upper
      rw [← number] at begins
      apply Pace.Paces.beat _ .nothing
      rw [pace, spent]
      exact begins
  | drawn => exact .of_quiet (by simp [Outcome.accept, Event.IsQuiet])
  | drawnAnew => exact .of_quiet (by simp [Outcome.accept, Event.IsQuiet])
  | resolved active hand known =>
      obtain ⟨pulls, applies⟩ := applies_applyPrompt active
      exact applies.paces
  | @adjusted delta change ledger active changed =>
      have same : (Game.checkEnd { game with ledger }).2.pace = game.pace := by
        rw [checkEnd_of_active (by exact active)]
        rfl
      show Pace.Paces game.pace _ (Game.checkEnd { game with ledger }).2.pace
      rw [same]
      apply Pace.Paces.of_quiet
      intro event member
      rcases List.mem_append.mp member with told | ended
      · split at told
        · rw [List.mem_singleton.mp told]
          trivial
        · cases told
      · exact quiet_of_mem_checkEnd ended
  | written => exact .nothing
  | restarted => exact .beat .dealt .nothing

theorem paces_play (fair : FairDice σ) {game : Game σ} {moves : List Move}
    (counted : game.Along CountsOn moves) :
    Pace.Paces game.pace (game.play moves).1 (game.afterMoves moves).pace := by
  induction moves generalizing game with
  | nil => exact .nothing
  | cons move moves induction =>
      obtain ⟨counts, later⟩ := counted
      exact (paces_perform fair counts).append (induction later)

/-! ## Rolling -/

theorem roll_answer (game : Game σ) :
    game.roll.answer =
      match game.refusal? .roll with
      | some error => .error error
      | none => .ok (TurnDie.roll game.nextTurn game.source).1 := by
  unfold roll whileActive refusal?
  split
  · rfl
  · split
    · rfl
    · cases game.turn.filter TurnDie.inProgress <;> rfl

omit [RandomSource σ] in
theorem refusal?_roll_eq_some_iff {game : Game σ} {error : GameError} :
    game.refusal? .roll = some error ↔
      (game.status ≠ .active ∧ error = .gameOver game.status) ∨
        (game.status = .active ∧ game.pending ≠ none ∧
          error = .drawWhilePending) ∨
        (game.status = .active ∧ game.pending = none ∧
          ∃ turn, game.turn = some turn ∧ turn.remaining ≠ 0 ∧
            error = .turnInProgress turn.remaining) := by
  by_cases active : game.status = .active
  · cases hand : game.pending with
    | some card =>
        simp [refusal?, active, hand, Status.isTerminal, @eq_comm _ error]
    | none =>
        cases turn : game.turn with
        | none => simp [refusal?, active, hand, turn, Status.isTerminal]
        | some last =>
            by_cases spent : last.remaining = 0
            · simp [refusal?, active, hand, turn, spent, Status.isTerminal,
                TurnDie.inProgress]
            · simp [refusal?, active, hand, turn, spent, Status.isTerminal,
                TurnDie.inProgress, UInt8.pos_iff_ne_zero, @eq_comm _ error]
  · have ended : game.status.isTerminal = true := by
      simpa [Status.isTerminal] using active
    have refused : game.refusal? .roll = some (.gameOver game.status) := by
      simp [refusal?, ended]
    simp [refused, active, @eq_comm _ error]

omit [RandomSource σ] in
theorem refusal?_roll_eq_none_iff {game : Game σ} :
    game.refusal? .roll = none ↔
      game.status = .active ∧ game.pending = none ∧
        ∀ turn, game.turn = some turn → turn.remaining = 0 := by
  rw [← cardsLeft_eq_zero_iff, ← filter_inProgress_eq_none_iff]
  by_cases active : game.status = .active
  · cases hand : game.pending <;>
      simp [refusal?, active, hand, Status.isTerminal]
  · have ended : game.status.isTerminal = true := by
      simpa [Status.isTerminal] using active
    simp [refusal?, ended, active]

/-- The turn die paces the cards.  In every run of a new game whose dice show
faces and whose turns can be counted, each deal is steady: its turns are
numbered one, two, three and so on, each is over before the next is rolled, and
its end is told right after as many applied cards as its die shows and at no
other time.  The turn is always one that a die can have begun.  The die can be
rolled just when the game is active, no card is in hand and no card is left of
the turn; otherwise it is refused for the first of these that fails. -/
theorem turns_paced (fair : FairDice σ) (content : Content) (source : σ)
    {moves : List Move} (counted : (start content source).Along CountsOn moves) :
    (∀ deal, deal ∈ ((start content source).play moves).1.splitOnP Event.isDealt →
        Pace.Steady deal) ∧
      TurnConsistent ((start content source).afterMoves moves).turn ∧
      ∀ game : Game σ,
        ((∃ turn, game.roll.answer = .ok turn) ↔
            game.status = .active ∧ game.pending = none ∧
              ∀ turn, game.turn = some turn → turn.remaining = 0) ∧
          ∀ error, game.roll.answer = .error error ↔
            (game.status ≠ .active ∧ error = .gameOver game.status) ∨
              (game.status = .active ∧ game.pending ≠ none ∧
                error = .drawWhilePending) ∨
              (game.status = .active ∧ game.pending = none ∧
                ∃ turn, game.turn = some turn ∧ turn.remaining ≠ 0 ∧
                  error = .turnInProgress turn.remaining) := by
  refine ⟨?_, ?_, ?_⟩
  · intro deal member
    exact (paces_play fair counted).steady_of_mem_splitOnP rfl member
  · have first : TurnConsistent (start content source).turn := by
      rintro turn ⟨⟩
    exact turnConsistent_afterMoves fair first counted
  · intro game
    rw [roll_answer, ← refusal?_roll_eq_none_iff]
    constructor
    · cases game.refusal? .roll <;> simp
    · intro error
      rw [← refusal?_roll_eq_some_iff]
      cases game.refusal? .roll <;> simp

/-- Two turns of three cards, with a roll in vain, and a new deal in the third
turn. -/
def threeTurns : List Move :=
  [.adjustTokens 9, .roll, .draw, .resolve, .draw, .resolve, .draw, .resolve,
    .roll, .draw, .resolve, .roll, .draw, .resolve, .draw, .resolve,
    .roll, .draw, .restart, .roll]

/-- The turns of the first deal are numbered one, two and three, and those of the
second begin with one again; a roll in the middle of a turn is refused. -/
theorem turns_paced_three :
    FairDice Loaded ∧
      (start Content.practice Loaded.threes).Along CountsOn threeTurns ∧
      (let deals := ((start Content.practice Loaded.threes).play
        threeTurns).1.splitOnP Event.isDealt
      deals.map (fun deal => deal.filterMap Event.rolledNumber?) =
          [[1, 2, 3], [1]] ∧
        ∀ deal, deal ∈ deals → Pace.Steady deal) ∧
      ((start Content.practice Loaded.threes).afterMoves
        (threeTurns.take 11)).roll.answer = .error (.turnInProgress 2) := by
  have counted :
      (start Content.practice Loaded.threes).Along CountsOn threeTurns :=
    along_countsOn (by decide +kernel)
  obtain ⟨steady, -, rolls⟩ :=
    turns_paced fairDice_of_lawful Content.practice Loaded.threes counted
  refine ⟨fairDice_of_lawful, counted, ⟨by decide +kernel, steady⟩, ?_⟩
  apply (rolls _).2 _ |>.mpr
  right
  right
  exact ⟨by decide +kernel, by decide +kernel, ⟨2, 3, 2⟩, by decide +kernel,
    by decide, rfl⟩

end Game

end SoloJournal
