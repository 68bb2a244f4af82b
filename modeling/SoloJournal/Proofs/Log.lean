import SoloJournal.Play.Game

/-!
# The log of a game

The events of a game tell all of it that a player can see.  `Board` is what can
be seen, `Board.note` is how one event changes it, and `Board.Tells` says which
events can truthfully be told of a board and to which board they lead.  Every
move tells the board before it to the board after it, so the log of a whole run
does.
-/

namespace SoloJournal

/-- What can be seen of a game. -/
structure Board where
  tokens : Int64
  stability : UInt32
  /-- How many cards the deck has. -/
  deck : Nat
  pending : Option Card
  history : History
  turn : Option TurnDie
  status : Status
  deriving DecidableEq

namespace Board

def opening (rules : Rulebook) : Board where
  tokens := rules.openingLedger.tokens
  stability := rules.openingLedger.stability
  deck := 52
  pending := none
  history := History.empty
  turn := none
  status := .active

/-- A turn with one card less to come, unless none is left. -/
def countDown (turn : TurnDie) : TurnDie :=
  if 0 < turn.remaining then { turn with remaining := turn.remaining - 1 }
  else turn

/-- The board after an event. -/
def note (rules : Rulebook) (board : Board) : Event → Board
  | .dealt _ => opening rules
  | .reshuffled deck => { board with deck }
  | .turnRolled number roll => { board with turn := some ⟨number, roll, roll⟩ }
  | .drawn card deck => { board with deck, pending := some card }
  | .applied card _ _ =>
      { board with
        pending := none
        history := History.ofList (card :: board.history.cards)
        turn := board.turn.map countDown }
  | .tokensChanged change => { board with tokens := change.after }
  | .stabilityChanged change => { board with stability := change.after }
  | .ended status => { board with status }
  | .turnEnded _ | .pulled _ _ _ _ | .resumed _ _ | .journalSaved _ => board

def afterEvents (rules : Rulebook) (board : Board) (events : List Event) :
    Board :=
  events.foldl (note rules) board

/-- What a board must be like for an event to be told of it.  A new deal can be
told of any board, everything else only while the game is active.  The end of a
turn is never told for itself: see `closing?`. -/
def Bears (board : Board) : Event → Prop
  | .dealt deck => deck = 52
  | .reshuffled deck =>
      board.status = .active ∧ board.pending = none ∧ board.deck = 0 ∧ deck = 52
  | .turnRolled _ _ => board.status = .active ∧ board.pending = none
  | .drawn _ remaining =>
      board.status = .active ∧ board.pending = none ∧
        board.deck = remaining + 1
  | .applied card _ _ => board.status = .active ∧ board.pending = some card
  | .tokensChanged change =>
      board.status = .active ∧ change.before = board.tokens ∧
        change.after ≠ board.tokens
  | .pulled stability _ _ _ =>
      board.status = .active ∧ stability = board.stability
  | .stabilityChanged change =>
      board.status = .active ∧ change.before = board.stability ∧
        change.after ≠ board.stability
  | .ended status => board.status = .active ∧ status ≠ .active
  | .turnEnded _ | .resumed _ _ | .journalSaved _ => False

/-- The number of the turn that an event closes: an applied card closes a turn
of which it is the last one. -/
def closing? (board : Board) : Event → Option UInt32
  | .applied _ _ _ =>
      (board.turn.filter (fun turn => turn.remaining == 1)).map TurnDie.number
  | _ => none

/-- The end of the turn that an event closes, if it closes one. -/
def closure (board : Board) (event : Event) : List Event :=
  ((board.closing? event).map .turnEnded).toList

/-- The events that lead from one board to another: each is borne by the board
that it is told of, and an event that closes a turn, and no other, is followed
by the end of this turn. -/
inductive Tells (rules : Rulebook) : Board → List Event → Board → Prop where
  | nothing {board : Board} : Tells rules board [] board
  | told {board after : Board} {event : Event} {events : List Event} :
      board.Bears event →
      Tells rules (board.note rules event) events after →
      Tells rules board (event :: (board.closure event ++ events)) after

variable {rules : Rulebook} {board middle after : Board}

@[simp] theorem afterEvents_cons (event : Event) (events : List Event) :
    board.afterEvents rules (event :: events) =
      (board.note rules event).afterEvents rules events :=
  rfl

theorem afterEvents_closure (event : Event) (events : List Event) :
    middle.afterEvents rules (board.closure event ++ events) =
      middle.afterEvents rules events := by
  unfold closure
  cases board.closing? event <;> rfl

/-- Events that begin with the end of a turn, if one is closed, are cut after
this end or right in front of it. -/
theorem closure_cut {cause event : Event} {earlier later events : List Event}
    (whole : earlier ++ event :: later = board.closure cause ++ events) :
    (∃ rest, earlier = board.closure cause ++ rest ∧
        rest ++ event :: later = events) ∨
      earlier = [] ∧ later = events ∧
        ∃ number, board.closing? cause = some number ∧
          event = .turnEnded number := by
  unfold closure at *
  cases closing : board.closing? cause with
  | none =>
      rw [closing] at whole
      exact .inl ⟨earlier, rfl, whole⟩
  | some number =>
      rw [closing] at whole
      cases earlier with
      | nil =>
          obtain ⟨same, rest⟩ := List.cons.inj whole
          exact .inr ⟨rfl, rest, number, rfl, same⟩
      | cons ending earlier =>
          obtain ⟨same, rest⟩ := List.cons.inj whole
          exact .inl ⟨earlier, congrArg (· :: earlier) same, rest⟩

namespace Tells

/-- An event can be told alone, with the end of the turn that it closes. -/
theorem alone {event : Event} (bears : board.Bears event) :
    Tells rules board (event :: board.closure event)
      (board.note rules event) := by
  have told : Tells rules board (event :: (board.closure event ++ []))
      (board.note rules event) :=
    .told bears .nothing
  rwa [List.append_nil] at told

theorem append {front back : List Event} (first : Tells rules board front middle)
    (second : Tells rules middle back after) :
    Tells rules board (front ++ back) after := by
  induction first with
  | nothing => exact second
  | told bears _ induction =>
      rw [List.cons_append, List.append_assoc]
      exact .told bears (induction second)

theorem afterEvents_eq {events : List Event}
    (tells : Tells rules board events after) :
    board.afterEvents rules events = after := by
  induction tells with
  | nothing => rfl
  | told _ _ induction =>
      rw [afterEvents_cons, afterEvents_closure]
      exact induction

theorem head?_ne_turnEnded {events : List Event}
    (tells : Tells rules board events after) (number : UInt32) :
    events.head? ≠ some (.turnEnded number) := by
  cases tells with
  | nothing => simp
  | told bears _ =>
      intro same
      cases Option.some.inj same
      exact bears

/-- Wherever a log is cut in front of an event, the event is borne by the board
that the events before it lead to, and what comes after it goes on from there;
or it is the end of the turn that the event right before it has closed. -/
theorem cut {event : Event} {earlier later : List Event}
    (tells : Tells rules board (earlier ++ event :: later) after) :
    ((board.afterEvents rules earlier).Bears event ∧
        ∃ rest,
          later = (board.afterEvents rules earlier).closure event ++ rest ∧
            Tells rules
              ((board.afterEvents rules earlier).note rules event) rest after) ∨
      ∃ front cause number,
        event = .turnEnded number ∧ earlier = front ++ [cause] ∧
          (board.afterEvents rules front).closing? cause = some number ∧
          Tells rules (board.afterEvents rules earlier) later after := by
  generalize whole : earlier ++ event :: later = events at tells
  induction tells generalizing earlier with
  | nothing => simp at whole
  | @told board after first events bears tells induction =>
      cases earlier with
      | nil =>
          obtain ⟨rfl, rfl⟩ := List.cons.inj whole
          exact .inl ⟨bears, events, rfl, tells⟩
      | cons cause earlier =>
          obtain ⟨rfl, whole⟩ := List.cons.inj whole
          rcases closure_cut whole with ⟨rest, rfl, same⟩ | ⟨rfl, rfl, closes⟩
          · rw [afterEvents_cons, afterEvents_closure]
            rcases induction same with borne | ⟨front, last, number, ends⟩
            · exact .inl borne
            · obtain ⟨rfl, rfl, closes, goesOn⟩ := ends
              refine .inr ⟨cause :: (board.closure cause ++ front), last, number,
                rfl, by simp, ?_, goesOn⟩
              rwa [afterEvents_cons, afterEvents_closure]
          · obtain ⟨number, closing, rfl⟩ := closes
            exact .inr ⟨[], cause, number, rfl, rfl, closing, tells⟩

theorem bears {event : Event} {earlier later : List Event}
    (tells : Tells rules board (earlier ++ event :: later) after)
    (other : ∀ number, event ≠ .turnEnded number) :
    (board.afterEvents rules earlier).Bears event := by
  rcases tells.cut with ⟨bears, -⟩ | ⟨-, -, number, same, -⟩
  · exact bears
  · exact absurd same (other number)

/-- The end of a turn is told right after the event that closes the turn. -/
theorem head?_eq_turnEnded_iff {event : Event} {earlier later : List Event}
    (tells : Tells rules board (earlier ++ event :: later) after)
    (number : UInt32) :
    later.head? = some (.turnEnded number) ↔
      (board.afterEvents rules earlier).closing? event = some number := by
  rcases tells.cut with ⟨-, rest, rfl, goesOn⟩ | ⟨_, _, ended, rfl, -, -, goesOn⟩
  · unfold closure
    cases (board.afterEvents rules earlier).closing? event with
    | none => simp [goesOn.head?_ne_turnEnded number]
    | some closed => simp
  · simp [goesOn.head?_ne_turnEnded number, closing?]

end Tells

end Board

end SoloJournal
