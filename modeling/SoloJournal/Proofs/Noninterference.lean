import SoloJournal.Proofs.WriteThrough

/-!
# The journal apart from the play

Nothing that is written in the journal, and no flush of it, has a bearing on the
play.  A game apart from its journal is `Game.blank`, and every move commutes
with it: what a blank game answers, tells and becomes is what the game answers,
tells and becomes, apart from the journal.  So two runs that differ in edits and
flushes only are the same to a player, and what they save differs in the journal
at most.
-/

namespace SoloJournal

namespace Outcome

variable {ε α β τ υ : Type}

/-- The outcome with another view of the state after it. -/
def onAfter (convert : τ → υ) (outcome : Outcome ε α τ) : Outcome ε α υ :=
  { outcome with after := convert outcome.after }

end Outcome

namespace Move

def isWriting : Move → Bool
  | .write _ => true
  | _ => false

end Move

/-! ## Games -/

namespace Game

variable {σ : Type}

/-- The game with an empty journal. -/
def blank (game : Game σ) : Game σ :=
  game.write ""

theorem checkEnd_blank (game : Game σ) :
    game.blank.checkEnd = (game.checkEnd.1, game.checkEnd.2.blank) := by
  have judged : game.blank.judged = game.judged := rfl
  have status : game.blank.status = game.status := rfl
  unfold checkEnd
  rw [judged, status]
  split <;> rfl

/-- What an action comes to that ends with checking the end. -/
def ending {α : Type} (answer : Status → α) (events : List Event)
    (game : Game σ) : Outcome GameError α (Game σ) :=
  .accept (answer game.checkEnd.2.status) (events ++ game.checkEnd.1)
    game.checkEnd.2

theorem ending_blank {α : Type} (answer : Status → α) (events : List Event)
    (game : Game σ) :
    ending answer events game.blank =
      (ending answer events game).onAfter blank := by
  unfold ending
  rw [checkEnd_blank]
  rfl

theorem adjustTokens_blank (game : Game σ) (delta : Int64) :
    game.blank.adjustTokens delta = (game.adjustTokens delta).onAfter blank := by
  have status : game.blank.status = game.status := rfl
  unfold adjustTokens whileActive
  rw [status]
  split
  · rfl
  · let change := (game.ledger.changeTokens delta).1
    exact ending_blank (fun _ => change)
      (if change.isReal then [.tokensChanged change] else [])
      { game with ledger := (game.ledger.changeTokens delta).2 }

variable [RandomSource σ]

theorem roll_blank (game : Game σ) :
    game.blank.roll = game.roll.onAfter blank := by
  unfold roll whileActive
  have status : game.blank.status = game.status := rfl
  have pending : game.blank.pending = game.pending := rfl
  have turn : game.blank.turn = game.turn := rfl
  rw [status, pending, turn]
  split
  · rfl
  split
  · rfl
  split <;> rfl

theorem draw_blank (game : Game σ) :
    game.blank.draw = game.draw.onAfter blank := by
  unfold draw whileActive
  have status : game.blank.status = game.status := rfl
  have pending : game.blank.pending = game.pending := rfl
  have drawn : game.blank.deck.draw? game.blank.content.rules.reshuffle
      game.blank.source =
        game.deck.draw? game.content.rules.reshuffle game.source :=
    rfl
  rw [status, pending, drawn]
  split
  · rfl
  split
  · rfl
  split <;> rfl

theorem applyPrompt_blank (game : Game σ) (card : Card) (prompt : Prompt) :
    game.blank.applyPrompt card prompt =
      (game.applyPrompt card prompt).onAfter blank := by
  let changed := game.ledger.changeTokens prompt.tokens
  let pulled := Tower.pullMany game.content.rules.thresholds
    prompt.blocks.toNat changed.2 game.source
  exact ending_blank
    (fun status =>
      ({ card, tokens := changed.1
         stability := ⟨game.ledger.stability, pulled.2.2.1.stability⟩
         status } : Applied))
    (.applied card prompt.tokens prompt.blocks :: (countCard game.turn).1
      ++ (if changed.1.isReal then [.tokensChanged changed.1] else [])
      ++ pulled.2.1)
    (game.withEffects card prompt)

theorem resolve_blank (game : Game σ) :
    game.blank.resolve = game.resolve.onAfter blank := by
  unfold resolve whileActive
  have status : game.blank.status = game.status := rfl
  have pending : game.blank.pending = game.pending := rfl
  have content : game.blank.content = game.content := rfl
  rw [status, pending, content]
  split
  · rfl
  split
  · rfl
  split
  · rfl
  · exact applyPrompt_blank game _ _

/-- A move that does not write plays a blank game as it plays the game. -/
theorem perform_blank (game : Game σ) {move : Move}
    (plays : move.isWriting = false) :
    game.blank.perform move = (game.perform move).onAfter blank := by
  cases move with
  | roll => exact congrArg (Outcome.map MoveAnswer.rolled) game.roll_blank
  | draw => exact congrArg (Outcome.map MoveAnswer.drawn) game.draw_blank
  | resolve => exact congrArg (Outcome.map MoveAnswer.resolved) game.resolve_blank
  | adjustTokens delta =>
      exact congrArg (Outcome.map MoveAnswer.adjusted) (game.adjustTokens_blank delta)
  | write text => cases plays
  | restart => rfl

/-- What the moves of a list are answered and what they tell. -/
def replies (game : Game σ) :
    List Move → List (Move × Except GameError MoveAnswer × List Event)
  | [] => []
  | move :: moves =>
      (move, (game.perform move).answer, (game.perform move).events)
        :: (game.perform move).after.replies moves

theorem play_cons (game : Game σ) (move : Move) (moves : List Move) :
    (game.play (move :: moves)).1 =
      (game.perform move).events ++ ((game.perform move).after.play moves).1 :=
  rfl

/-- Two games that differ in their journals at most are played alike, whatever
is written in one of them meanwhile. -/
theorem plays_alike {left right : Game σ} (alike : left.blank = right.blank)
    (moves : List Move) :
    let others := moves.filter (fun move => !move.isWriting)
    (left.replies moves).filter (fun reply => !reply.1.isWriting) =
        right.replies others ∧
      (left.play moves).1 = (right.play others).1 ∧
      (left.afterMoves moves).blank = (right.afterMoves others).blank := by
  induction moves generalizing left right with
  | nil => exact ⟨rfl, rfl, alike⟩
  | cons move moves induction =>
      cases writes : move.isWriting with
      | true =>
          -- only the game on the left makes the move, and stays alike
          cases move with
          | write text =>
              have rewritten : (left.write text).blank = right.blank := alike
              have later := induction rewritten
              simpa [replies, Move.isWriting, perform, Outcome.accept,
                play_cons] using later
          | _ => cases writes
      | false =>
          have same : (left.perform move).onAfter blank =
              (right.perform move).onAfter blank := by
            rw [← left.perform_blank writes, alike, right.perform_blank writes]
          have answer := congrArg Outcome.answer same
          have events := congrArg Outcome.events same
          obtain ⟨replies_eq, events_eq, after_eq⟩ :=
            induction (congrArg Outcome.after same)
          have kept : (move :: moves).filter (fun move => !move.isWriting) =
              move :: moves.filter (fun move => !move.isWriting) := by
            simp [writes]
          rw [kept]
          refine ⟨?_, ?_, after_eq⟩
          · rw [replies, replies, List.filter_cons, writes]
            simp only [Bool.not_false, if_true, replies_eq]
            rw [show (left.perform move).answer = _ from answer,
              show (left.perform move).events = _ from events]
            rfl
          · rw [play_cons, play_cons, events_eq]
            exact congrArg (· ++ _) events

end Game

/-! ## Sessions -/

namespace SavedGame

/-- The saved game with an empty journal. -/
def blank (saved : SavedGame) : SavedGame :=
  { saved with journal := "" }

@[simp] theorem blank_saved {σ : Type} (game : Game σ) :
    game.saved.blank = game.blank.saved :=
  rfl

end SavedGame

namespace Request

def blank : Request → Request
  | save saved => save saved.blank
  | clear => clear

end Request

namespace Event

def tellsSaving : Event → Bool
  | .journalSaved _ => true
  | _ => false

end Event

namespace Board.Tells

variable {rules : Rulebook} {board after : Board} {events : List Event}

/-- The saving of a journal is no part of what a game tells. -/
theorem tellsSaving_eq_false (tells : Tells rules board events after) :
    ∀ event, event ∈ events → event.tellsSaving = false := by
  induction tells with
  | nothing =>
      intro event member
      cases member
  | @told board after event events bears tells induction =>
      intro other member
      rcases List.mem_cons.mp member with first | later
      · subst first
        cases other with
        | journalSaved chars => exact bears.elim
        | _ => rfl
      · rcases List.mem_append.mp later with closing | rest
        · unfold Board.closure at closing
          obtain ⟨number, -, same⟩ := by simpa using closing
          subst same
          rfl
        · exact induction other rest

end Board.Tells

namespace Deed

/-- Whether the deed is about the journal only. -/
def isJournal : Deed → Bool
  | edit _ _ | flush _ | flushNow => true
  | roll | draw | resolve | adjustTokens _ | restart => false

theorem isJournal_of_action? {deed : Deed} {move : Move}
    (action : deed.action? = some move) : deed.isJournal = false := by
  cases deed <;> cases action <;> rfl

/-- A deed that is not about the journal makes a move that does not write. -/
theorem move?_of_plays {deed : Deed} (plays : deed.isJournal = false) :
    ∃ move, deed.move? = some move ∧ move.isWriting = false := by
  cases deed with
  | edit text now => cases plays
  | flush now => cases plays
  | flushNow => cases plays
  | _ => exact ⟨_, rfl, rfl⟩

end Deed

/-- What can be seen of a deed: what it is answered, what it tells and what it
writes. -/
structure Reply where
  deed : Deed
  answer : Except SessionError DeedAnswer
  events : List Event
  written : List Request

namespace Reply

def blank (reply : Reply) : Reply :=
  { reply with written := reply.written.map Request.blank }

/-- The reply to a deed whose move comes to an outcome and is saved. -/
def ofOutcome {σ : Type} (deed : Deed)
    (outcome : Outcome GameError MoveAnswer (Game σ)) : Reply :=
  { deed
    answer := (outcome.answer.mapError SessionError.game).map .played
    events := outcome.events
    written :=
      match outcome.answer with
      | .error _ => []
      | .ok _ =>
        (if deed = .restart then [.clear] else [])
          ++ [.save outcome.after.saved] }

theorem blank_ofOutcome {σ : Type} (deed : Deed)
    (outcome : Outcome GameError MoveAnswer (Game σ)) :
    (ofOutcome deed outcome).blank =
      ofOutcome deed (outcome.onAfter Game.blank) := by
  unfold ofOutcome blank Outcome.onAfter
  cases outcome.answer with
  | error error => rfl
  | ok answer =>
      by_cases again : deed = .restart
      · subst again
        rfl
      · simp only [if_neg again]
        rfl

end Reply

namespace Session

variable {σ κ : Type} [SaveSlot κ] [LawfulSlot κ] [RandomSource σ]

def reply (session : Session σ κ) (deed : Deed) : Reply :=
  { deed
    answer := (session.perform deed).answer
    events := (session.perform deed).events
    written := session.granted deed }

def replies (session : Session σ κ) : List Deed → List Reply
  | [] => []
  | deed :: deeds =>
      session.reply deed :: (session.perform deed).after.replies deeds

variable [UnfailingSlot κ]

/-- A deed that is not about the journal is replied to as its move is. -/
theorem reply_of_move? (session : Session σ κ) {deed : Deed} {move : Move}
    (moves : deed.move? = some move) (plays : deed.isJournal = false) :
    session.reply deed = .ofOutcome deed (session.game.perform move) := by
  have goes := goes_perform session deed
  unfold reply
  generalize session.granted deed = made at goes
  generalize session.perform deed = outcome at goes
  cases goes with
  | rejected action refused =>
      cases (Deed.move?_of_action? action).symm.trans moves
      rw [refused]
      rfl
  | played action accepted =>
      cases (Deed.move?_of_action? action).symm.trans moves
      have notRestart : deed ≠ .restart := by
        rintro rfl
        cases action
      unfold Reply.ofOutcome
      rw [accepted, if_neg notRestart]
      rfl
  | dealt =>
      cases moves
      rfl
  | edited => cases plays
  | waited waits =>
      cases (move?_of_due? waits).symm.trans moves
  | flushed flushes =>
      cases (move?_of_due? flushes).symm.trans moves

/-- A deed about the journal changes nothing else of the game, tells of its
saving at most, and writes the game at most. -/
theorem journal_perform (session : Session σ κ) {deed : Deed}
    (journal : deed.isJournal = true) :
    (session.perform deed).after.game.blank = session.game.blank ∧
      (∀ event, event ∈ (session.perform deed).events →
        event.tellsSaving = true) ∧
      (session.granted deed = [] ∨
        session.granted deed = [.save session.game.saved]) := by
  have goes := goes_perform session deed
  generalize session.granted deed = made at goes
  generalize session.perform deed = outcome at goes
  cases goes with
  | edited => exact ⟨rfl, by simp [Outcome.accept], .inl rfl⟩
  | waited => exact ⟨rfl, by simp [Outcome.accept], .inl rfl⟩
  | flushed => exact ⟨rfl, by simp [Outcome.accept, Event.tellsSaving], .inr rfl⟩
  | rejected action =>
      cases (Deed.isJournal_of_action? action).symm.trans journal
  | played action => cases (Deed.isJournal_of_action? action).symm.trans journal
  | dealt => cases journal

/-- The reply to a deed of the play depends on nothing but the blank game. -/
theorem blank_reply (session : Session σ κ) {deed : Deed} {move : Move}
    (moves : deed.move? = some move) (plays : deed.isJournal = false)
    (reads : move.isWriting = false) :
    (session.reply deed).blank =
      .ofOutcome deed (session.game.blank.perform move) := by
  rw [reply_of_move? session moves plays, Reply.blank_ofOutcome,
    Game.perform_blank _ reads]

theorem blank_perform (session : Session σ κ) {deed : Deed} {move : Move}
    (moves : deed.move? = some move) (reads : move.isWriting = false) :
    (session.perform deed).after.game.blank =
      (session.game.blank.perform move).after := by
  have game := (unhindered_perform session deed).game_eq
  rw [moves] at game
  rw [game, Game.perform_blank _ reads]
  rfl

/-- Two sessions whose games differ in their journals at most are played alike,
whatever is edited and flushed in one of them meanwhile. -/
theorem plays_alike {left right : Session σ κ}
    (alike : left.game.blank = right.game.blank) (deeds : List Deed) :
    let others := deeds.filter (fun deed => !deed.isJournal)
    ((left.replies deeds).filter (fun reply => !reply.deed.isJournal)).map
          Reply.blank =
        (right.replies others).map Reply.blank ∧
      (left.afterDeeds deeds).game.blank =
        (right.afterDeeds others).game.blank := by
  induction deeds generalizing left right with
  | nil => exact ⟨rfl, alike⟩
  | cons deed deeds induction =>
      cases journal : deed.isJournal with
      | true =>
          obtain ⟨same, -, -⟩ := journal_perform left journal
          have later := induction (same.trans alike)
          simpa [replies, reply, afterDeeds, journal] using later
      | false =>
          obtain ⟨move, moves, reads⟩ := Deed.move?_of_plays journal
          have first : (left.reply deed).blank = (right.reply deed).blank := by
            rw [blank_reply left moves journal reads, alike,
              blank_reply right moves journal reads]
          have after : (left.perform deed).after.game.blank =
              (right.perform deed).after.game.blank := by
            rw [blank_perform left moves reads, alike,
              blank_perform right moves reads]
          have later := induction after
          simp only [reply] at first
          simpa [replies, reply, afterDeeds, journal, first] using later

/-- The events of a session are those of its deeds of play, and others that tell
of saving the journal. -/
theorem events_replies (session : Session σ κ) (deeds : List Deed) :
    ((session.replies deeds).flatMap Reply.events).filter
        (fun event => !event.tellsSaving) =
      ((session.replies deeds).filter
        (fun reply => !reply.deed.isJournal)).flatMap Reply.events := by
  induction deeds generalizing session with
  | nil => rfl
  | cons deed deeds induction =>
      rw [replies, List.flatMap_cons, List.filter_append, induction,
        List.filter_cons]
      cases journal : deed.isJournal with
      | true =>
          obtain ⟨-, saving, -⟩ := journal_perform session journal
          have none : (session.reply deed).events.filter
              (fun event => !event.tellsSaving) = [] := by
            rw [List.filter_eq_nil_iff]
            intro event member
            simp [saving event member]
          simp [reply, journal] at none ⊢
          exact none
      | false =>
          obtain ⟨move, moves, -⟩ := Deed.move?_of_plays journal
          have same := reply_of_move? session moves journal
          have tells := Game.tells_perform session.game move
          have all : (session.reply deed).events.filter
              (fun event => !event.tellsSaving) = (session.reply deed).events := by
            rw [List.filter_eq_self]
            intro event member
            rw [same] at member
            simp [tells.tellsSaving_eq_false event member]
          rw [all]
          simp [reply, journal]

theorem events_blank (replies : List Reply) :
    (replies.map Reply.blank).flatMap Reply.events =
      replies.flatMap Reply.events := by
  rw [List.flatMap_map]
  rfl

/-- What is kept stays the game up to the journal. -/
theorem keptAfter_perform {session : Session σ κ} {kept : Option SavedGame}
    (keeps : kept.map SavedGame.blank = some session.game.blank.saved)
    (deed : Deed) :
    (keptAfter kept (session.granted deed)).map SavedGame.blank =
      some (session.perform deed).after.game.blank.saved := by
  rcases (unhindered_perform session deed).last_made with
    saved | ⟨nothing, text, edited⟩
  · rw [saved kept]
    rfl
  · rw [nothing, edited]
    exact keeps

theorem keptAfter_afterDeeds {session : Session σ κ} {kept : Option SavedGame}
    (keeps : kept.map SavedGame.blank = some session.game.blank.saved)
    (deeds : List Deed) :
    (keptAfter kept (session.grantedAlong deeds)).map SavedGame.blank =
      some (session.afterDeeds deeds).game.blank.saved := by
  induction deeds generalizing session kept with
  | nil => exact keeps
  | cons deed deeds induction =>
      rw [grantedAlong, keptAfter_append]
      exact induction (keptAfter_perform keeps deed)

/-- The journal bears on nothing but itself.  Leaving out the edits and flushes
of a run changes no reply to the other deeds, apart from the journal in what
they write, no event but those that tell of saving the journal, and nothing of
the final game or of what is kept but the journal.  A deed that is left out
writes nothing, or the game as it is without it, apart from the journal.  It is
the same for the moves of a game, whatever its status. -/
theorem journal_bears_on_nothing (session : Session σ κ) :
    (∀ deeds : List Deed,
      let others := deeds.filter (fun deed => !deed.isJournal)
      ((session.replies deeds).filter
            (fun reply => !reply.deed.isJournal)).map Reply.blank =
          (session.replies others).map Reply.blank ∧
        ((session.replies deeds).flatMap Reply.events).filter
            (fun event => !event.tellsSaving) =
          (session.replies others).flatMap Reply.events ∧
        (session.afterDeeds deeds).game.blank =
          (session.afterDeeds others).game.blank ∧
        (∀ deed, deed.isJournal = true →
          ((session.afterDeeds deeds).granted deed).map Request.blank = [] ∨
            ((session.afterDeeds deeds).granted deed).map Request.blank =
              [.save (session.afterDeeds others).game.blank.saved]) ∧
        ∀ kept : Option SavedGame,
          kept.map SavedGame.blank = some session.game.blank.saved →
            (keptAfter kept (session.grantedAlong deeds)).map SavedGame.blank =
              (keptAfter kept (session.grantedAlong others)).map
                SavedGame.blank) ∧
      ∀ (game : Game σ) (moves : List Move),
        let others := moves.filter (fun move => !move.isWriting)
        (game.replies moves).filter (fun reply => !reply.1.isWriting) =
            game.replies others ∧
          (game.play moves).1 = (game.play others).1 ∧
          (game.afterMoves moves).blank = (game.afterMoves others).blank := by
  refine ⟨fun deeds => ?_, fun game moves => Game.plays_alike rfl moves⟩
  intro others
  obtain ⟨replied, final⟩ :=
    plays_alike (rfl : session.game.blank = session.game.blank) deeds
  refine ⟨replied, ?_, final, ?_, ?_⟩
  · rw [events_replies, ← events_blank, replied, events_blank]
  · intro deed journal
    obtain ⟨-, -, nothing | saved⟩ :=
      journal_perform (session.afterDeeds deeds) journal
    · exact .inl (congrArg _ nothing)
    · right
      rw [saved, ← final]
      rfl
  · intro kept keeps
    rw [keptAfter_afterDeeds keeps, keptAfter_afterDeeds keeps, final]

open Terminal.Table (begun) in
/-- A note on the weather is written in a drawn turn, and rewritten; the turn
goes on as without it. -/
theorem journal_bears_on_nothing_weather :
    let session := begun MemorySlot.empty Loaded.threes
    let deeds := [.edit "fog" 0, .roll, .draw, .edit "rain" 5000, .flushNow,
      .resolve, .edit "sun" 5000]
    let others := [.roll, .draw, .resolve]
    let final := session.afterDeeds deeds
    final.game.journal = "sun" ∧ (session.afterDeeds others).game.journal = "" ∧
      final.game.blank = (session.afterDeeds others).game.blank ∧
      ((session.replies deeds).flatMap Reply.events).filter
          (fun event => !event.tellsSaving) =
        (session.replies others).flatMap Reply.events ∧
      (final.granted .flushNow).map Request.blank =
        [.save (session.afterDeeds others).game.blank.saved] ∧
      (keptAfter (some session.game.saved)
            (session.grantedAlong deeds)).map SavedGame.blank =
        (keptAfter (some session.game.saved)
            (session.grantedAlong others)).map SavedGame.blank := by
  obtain ⟨noted, -⟩ :=
    journal_bears_on_nothing (begun MemorySlot.empty Loaded.threes)
  obtain ⟨-, events, same, writes, keeps⟩ :=
    noted [.edit "fog" 0, .roll, .draw, .edit "rain" 5000, .flushNow, .resolve,
      .edit "sun" 5000]
  have journals :
      ((begun MemorySlot.empty Loaded.threes).afterDeeds
          [.edit "fog" 0, .roll, .draw, .edit "rain" 5000, .flushNow, .resolve,
            .edit "sun" 5000]).game.journal = "sun" ∧
        ((begun MemorySlot.empty Loaded.threes).afterDeeds
          [.roll, .draw, .resolve]).game.journal = "" := by
    decide +kernel
  have flushed :
      ((begun MemorySlot.empty Loaded.threes).afterDeeds
          [.edit "fog" 0, .roll, .draw, .edit "rain" 5000, .flushNow, .resolve,
            .edit "sun" 5000]).granted .flushNow ≠ [] := by
    decide +kernel
  refine ⟨journals.1, journals.2, same, events, ?_, keeps _ (by simp)⟩
  rcases writes .flushNow rfl with nothing | saved
  · exact absurd (List.map_eq_nil_iff.mp nothing) flushed
  · exact saved

end Session

end SoloJournal
