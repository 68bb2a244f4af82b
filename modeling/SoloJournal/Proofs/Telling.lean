import SoloJournal.Proofs.Log
import SoloJournal.Proofs.Standing
import SoloJournal.Proofs.Turns

/-!
# What the events of a game tell

Each move tells the board of the game before it to the board of the game after
it.  The parts of a move that have events of their own, the changes of the
counters, the pulls and the check of the end, tell their part of the board
first; a move strings them together.
-/

namespace SoloJournal

namespace TurnDie

theorem countCard_closes (turn : TurnDie) :
    turn.countCard.1 = (turn.remaining == 1) := by
  unfold countCard
  split
  case isTrue spent => simp [spent]
  case isFalse left =>
    have last : turn.remaining - 1 = 0 ↔ turn.remaining = 1 := by grind
    simp [last, Bool.beq_eq_decide_eq]

theorem countCard_after (turn : TurnDie) :
    turn.countCard.2 = Board.countDown turn := by
  unfold countCard Board.countDown
  by_cases spent : turn.remaining = 0
  · simp [spent]
  · have positive : 0 < turn.remaining := UInt8.pos_iff_ne_zero.mpr spent
    simp [spent, positive]

end TurnDie

namespace Board

variable {rules : Rulebook} {board : Board}

/-- A change of a counter is told just when it is a real one, and leaves the
board as it is otherwise. -/
theorem tells_change {value : Type} [DecidableEq value] {change : Change value}
    (event : Event) (unclosing : board.closure event = [])
    (bears : change.after ≠ change.before → board.Bears event)
    (unchanged : change.after = change.before →
      board.note rules event = board) :
    Tells rules board (if change.isReal then [event] else [])
      (board.note rules event) := by
  by_cases same : change.after = change.before
  · have unreal : change.isReal = false := by simp [Change.isReal, same]
    rw [unreal, unchanged same]
    exact .nothing
  · have real : change.isReal = true := by
      simpa [Change.isReal] using Ne.symm same
    rw [real, if_pos rfl, ← unclosing]
    exact .alone (bears same)

theorem tells_tokens {change : Change Int64} (active : board.status = .active)
    (before : change.before = board.tokens) :
    Tells rules board (if change.isReal then [.tokensChanged change] else [])
      { board with tokens := change.after } := by
  apply tells_change (.tokensChanged change) rfl
  · intro differs
    exact ⟨active, before, before ▸ differs⟩
  · intro same
    rw [note, same, before]

theorem tells_stability {change : Change UInt32}
    (active : board.status = .active)
    (before : change.before = board.stability) :
    Tells rules board
      (if change.isReal then [.stabilityChanged change] else [])
      { board with stability := change.after } := by
  apply tells_change (.stabilityChanged change) rfl
  · intro differs
    exact ⟨active, before, before ▸ differs⟩
  · intro same
    rw [note, same, before]

theorem tells_pull {pull : Pull} {change : Change UInt32}
    (active : board.status = .active)
    (before : change.before = board.stability) :
    Tells rules board (Tower.pullEvents pull change)
      { board with stability := change.after } :=
  .told ⟨active, before⟩ (tells_stability active before)

/-- Pulls tell what becomes of the stability, also when the tower falls before
the last of them. -/
theorem tells_pullMany {source : Type} [RandomSource source]
    {thresholds : Thresholds} {count : Nat} {ledger : Ledger} {state : source}
    (active : board.status = .active)
    (stability : board.stability = ledger.stability) :
    Tells rules board (Tower.pullMany thresholds count ledger state).2.1
      { board with
        stability :=
          (Tower.pullMany thresholds count ledger state).2.2.1.stability } := by
  induction count generalizing board ledger state with
  | zero =>
      rw [Tower.pullMany, ← stability]
      exact .nothing
  | succ count induction =>
      rw [Tower.pullMany]
      split
      case isTrue fallen =>
        rw [← stability]
        exact .nothing
      case isFalse standing =>
        apply Tells.append
        · apply tells_pull active
          exact stability.symm
        · apply induction
          · exact active
          · rfl

theorem turn_countCard (turn : Option TurnDie) :
    (Game.countCard turn).2 = turn.map countDown := by
  cases turn with
  | none => rfl
  | some turn => exact congrArg some turn.countCard_after

theorem closure_applied {card : Card} {tokens : Int64} {blocks : UInt32} :
    board.closure (.applied card tokens blocks) =
      (Game.countCard board.turn).1 := by
  cases under : board.turn with
  | none => simp [closure, closing?, Game.countCard, under]
  | some turn =>
      have closes := turn.countCard_closes
      have number := turn.number_countCard
      by_cases last : turn.remaining = 1
      · simp [closure, closing?, Game.countCard, under, closes, number, last]
      · simp [closure, closing?, Game.countCard, under, closes, last]

theorem tells_applied {card : Card} {tokens : Int64} {blocks : UInt32}
    (active : board.status = .active) (hand : board.pending = some card) :
    Tells rules board
      (.applied card tokens blocks :: (Game.countCard board.turn).1)
      (board.note rules (.applied card tokens blocks)) := by
  rw [← closure_applied]
  exact .alone ⟨active, hand⟩

end Board

namespace Game

variable {σ : Type}

def board (game : Game σ) : Board where
  tokens := game.ledger.tokens
  stability := game.ledger.stability
  deck := game.deck.remaining
  pending := game.pending
  history := game.history
  turn := game.turn
  status := game.status

variable {rules : Rulebook} {game : Game σ}

theorem tells_checkEnd (active : game.status = .active) :
    Board.Tells rules game.board game.checkEnd.1 game.checkEnd.2.board := by
  rw [checkEnd]
  split
  case isTrue ends =>
    refine .told ⟨active, ?_⟩ .nothing
    intro same
    rw [same] at ends
    simp [Status.isTerminal] at ends
  case isFalse => exact .nothing

variable [RandomSource σ]

theorem board_withEffects (rules : Rulebook) (card : Card) (prompt : Prompt)
    (game : Game σ) :
    (game.withEffects card prompt).board =
      { game.board.note rules (.applied card prompt.tokens prompt.blocks) with
        tokens := (game.ledger.changeTokens prompt.tokens).1.after
        stability := (game.withEffects card prompt).ledger.stability } := by
  have tokens : (game.withEffects card prompt).ledger.tokens =
      (game.ledger.changeTokens prompt.tokens).1.after :=
    Tower.pullMany_tokens _ _ _ _
  have turn : (game.withEffects card prompt).turn =
      game.turn.map Board.countDown :=
    Board.turn_countCard game.turn
  simp only [board, tokens, turn]
  rfl

/-- A card tells its effects in the order in which it has them: the history and
the turn, the tokens, the pulls, and the end of the game. -/
theorem tells_applyPrompt {card : Card} {prompt : Prompt}
    (active : game.status = .active) (hand : game.pending = some card) :
    Board.Tells rules game.board (game.applyPrompt card prompt).events
      (game.applyPrompt card prompt).after.board := by
  have ending : Board.Tells rules (game.withEffects card prompt).board
      (game.withEffects card prompt).checkEnd.1
      (game.withEffects card prompt).checkEnd.2.board :=
    tells_checkEnd active
  rw [board_withEffects rules] at ending
  apply Board.Tells.append _ ending
  apply Board.Tells.append
  · apply Board.Tells.append
    · exact Board.tells_applied active hand
    · apply Board.tells_tokens
      · exact active
      · rfl
  · apply Board.tells_pullMany
    · exact active
    · rfl

theorem board_start (content : Content) (source : σ) :
    (start content source).board = Board.opening content.rules := by
  have whole : (start content source).deck.remaining = 52 :=
    Deck.remaining_dealt source
  rw [board, whole]
  rfl

/-- Every move tells the board before it to the board after it. -/
theorem tells_perform (game : Game σ) (move : Move) :
    Board.Tells game.content.rules game.board (game.perform move).events
      (game.perform move).after.board := by
  have performs := performs_perform game move
  generalize game.perform move = outcome at performs
  cases performs with
  | refused => exact .nothing
  | rolled active hand between die => exact .told ⟨active, hand⟩ .nothing
  | drawn active hand full =>
      refine .told ⟨active, hand, ?_⟩ .nothing
      show game.deck.pile.length = _
      rw [full, List.length_cons]
  | @drawnAnew card pile active hand empty again full =>
      have whole : pile.length + 1 = 52 := by
        have count := Deck.remaining_dealt game.source
        rwa [Deck.remaining, full] at count
      refine .told ⟨active, hand, ?_, whole⟩ (.told ⟨active, hand, rfl⟩ .nothing)
      show game.deck.pile.length = 0
      rw [empty, List.length_nil]
  | resolved active hand known => exact tells_applyPrompt active hand
  | @adjusted delta change ledger active changed =>
      have ending : Board.Tells game.content.rules
          (Game.board { game with ledger })
          (Game.checkEnd { game with ledger }).1
          (Game.checkEnd { game with ledger }).2.board :=
        tells_checkEnd active
      cases changed
      apply Board.Tells.append _ ending
      apply Board.tells_tokens
      · exact active
      · rfl
  | written => exact .nothing
  | restarted =>
      have whole : (start game.content game.source).deck.remaining = 52 :=
        Deck.remaining_dealt game.source
      show Board.Tells _ _
        [.dealt (start game.content game.source).deck.remaining]
        (start game.content game.source).board
      rw [whole, board_start]
      exact .told rfl .nothing

theorem tells_play (game : Game σ) (moves : List Move) :
    Board.Tells game.content.rules game.board (game.play moves).1
      (game.afterMoves moves).board := by
  induction moves generalizing game with
  | nil => exact .nothing
  | cons move moves induction =>
      have later := induction (game.perform move).after
      rw [content_perform] at later
      exact (tells_perform game move).append later

/-- The log is complete.  After any moves of a new game, the events told so far
lead from the opening board to the board of the game.  Each of them is borne by
the board that the ones before it lead to, and the end of a turn is told right
after the card that closes the turn and nowhere else. -/
theorem log_complete (content : Content) (source : σ) (moves : List Move) :
    let log := ((start content source).play moves).1
    let told := (Board.opening content.rules).afterEvents content.rules
    told log = ((start content source).afterMoves moves).board ∧
      (∀ earlier event later, log = earlier ++ event :: later →
        (∀ number, event ≠ .turnEnded number) →
          (told earlier).Bears event) ∧
      (∀ earlier event later number, log = earlier ++ event :: later →
        (later.head? = some (.turnEnded number) ↔
          (told earlier).closing? event = some number)) ∧
      ∀ number, log.head? ≠ some (.turnEnded number) := by
  intro log told
  have tells : Board.Tells content.rules (Board.opening content.rules) log
      ((start content source).afterMoves moves).board :=
    board_start content source ▸ tells_play (start content source) moves
  refine ⟨tells.afterEvents_eq, ?_, ?_, tells.head?_ne_turnEnded⟩
  · intro earlier event later cut other
    rw [cut] at tells
    exact tells.bears other
  · intro earlier event later number cut
    rw [cut] at tells
    exact tells.head?_eq_turnEnded_iff number

/-- A turn with all its cards, where the die shows three. -/
def turnOfThree : List Move :=
  [.roll, .draw, .resolve, .draw, .resolve, .draw, .resolve]

/-- The third card of a turn of three is applied out of the hand and closes the
turn, and the log goes on with the end of this turn. -/
theorem log_complete_third_card :
    let log := ((start Content.practice Loaded.threes).play turnOfThree).1
    let third := Event.applied ⟨.clubs, .three⟩ (-1) 1
    ∃ earlier later, log = earlier ++ third :: later ∧
      later.head? = some (.turnEnded 1) ∧
      (let board := (Board.opening Content.practice.rules).afterEvents
        Content.practice.rules earlier
      board.Bears third ∧ board.closing? third = some 1) := by
  intro log third
  obtain ⟨-, bears, ends, -⟩ :=
    log_complete Content.practice Loaded.threes turnOfThree
  have cut : log = log.take 10 ++ third :: log.drop 11 := by decide +kernel
  have next : (log.drop 11).head? = some (.turnEnded 1) := by decide +kernel
  refine ⟨log.take 10, log.drop 11, cut, next, ?_, ?_⟩
  · apply bears _ _ _ cut
    intro number
    exact Event.noConfusion
  · exact (ends _ _ _ 1 cut).mp next

end Game

end SoloJournal
