import SoloJournal.Proofs.Runs
import SoloJournal.Proofs.Script
import SoloJournal.Proofs.Slots

/-!
# What a session owes its slot

A session owes its slot what has changed since the slot last took its game.
The account of it needs nothing but the marks of the script: edits of the
journal and refused calls are owed until the slot takes the game.
-/

namespace SoloJournal

open Terminal (Command Moments)

/-- What a session may still owe its slot. -/
structure Owed where
  /-- Whether the journal was edited since the slot last took the game. -/
  edits : Bool
  /-- Whether the slot refused a call since it last took the game. -/
  refusals : Bool

namespace Owed

def nothing : Owed := { edits := false, refusals := false }

def next (owed : Owed) : Mark → Owed
  | .saved => nothing
  | .refused => { owed with refusals := true }
  | .noted => { owed with edits := true }

def afterMarks (owed : Owed) (marks : List Mark) : Owed :=
  marks.foldl next owed

theorem afterMarks_append (owed : Owed) (front back : List Mark) :
    owed.afterMarks (front ++ back) =
      (owed.afterMarks front).afterMarks back :=
  List.foldl_append

end Owed

namespace Session

variable {σ κ : Type}

section Saving

variable [SaveSlot κ] [LawfulSlot κ]

/-- What is owed accounts for a session: unsaved edits are those that the
session knows of, and a session that owes nothing has its game kept. -/
structure Accounts (owed : Owed) (session : Session σ κ) : Prop where
  edits_eq : session.autosave.isDirty = owed.edits
  kept : owed.edits = false → owed.refusals = false → session.Kept

theorem accounts_nothing {session : Session σ κ} (kept : session.Kept)
    (clean : session.autosave.isDirty = false) :
    Accounts .nothing session where
  edits_eq := clean
  kept _ _ := kept

/-- What saving the journal can come to, where it succeeds. -/
theorem saveJournal_eq_ok {session : Session σ κ} {written : Bool}
    (saved : session.saveJournal.answer = .ok written) :
    written = true ∧ session.saveJournal.after.Kept ∧
      session.saveJournal.after.autosave.isDirty = false ∧
      session.saveJournal.after.game = session.game := by
  have cases := persist_cases session
  unfold saveJournal at saved ⊢
  cases persisted : session.persist with
  | mk answer after =>
      rw [persisted] at saved cases
      cases answer with
      | ok done =>
          cases saved
          rcases cases with ⟨-, kept, clean, same⟩ | ⟨error, refused, -⟩
          · exact ⟨rfl, kept, clean, same⟩
          · cases refused
      | error error => cases saved

theorem flush_eq_ok {session : Session σ κ} {now : Nat} {written : Bool}
    (flushed : (session.flush now).answer = .ok written) :
    written = true ∧ (session.flush now).after.Kept ∧
        (session.flush now).after.autosave.isDirty = false ∧
        (session.flush now).after.game = session.game ∨
      written = false ∧ (session.flush now).after = session := by
  unfold flush at flushed ⊢
  split at flushed
  case isTrue due =>
    rw [if_pos due]
    exact .inl (saveJournal_eq_ok flushed)
  case isFalse waits =>
    rw [if_neg waits]
    cases flushed
    exact .inr ⟨rfl, rfl⟩

theorem accounts_flush {owed : Owed} {session : Session σ κ} {now : Nat}
    {written : Bool} (accounts : Accounts owed session)
    (flushed : (session.flush now).answer = .ok written) :
    Accounts (owed.afterMarks (if written then [.saved] else []))
      (session.flush now).after := by
  rcases flush_eq_ok flushed with ⟨rfl, kept, clean, -⟩ | ⟨rfl, same⟩
  · exact accounts_nothing kept clean
  · rw [same]
    exact accounts

end Saving

section Acting

variable [SaveSlot κ] [LawfulSlot κ] [RandomSource σ]

/-- What an action of a session can come to, with the game after some moves. -/
inductive Acts (session : Session σ κ) :
    Except SessionError Unit → Session σ κ → Prop where
  | rejected {error : GameError} :
      Acts session (.error (.game error)) session
  | saved {after : Session σ κ} (move : Move) :
      after.game = (session.game.perform move).after →
      after.Kept →
      after.autosave.isDirty = false →
      Acts session (.ok ()) after
  | refused {error : SaveError} {after : Session σ κ} (moves : List Move) :
      moves.length ≤ 1 →
      after.game = session.game.afterMoves moves →
      after.autosave = session.autosave →
      Acts session (.error (.save error)) after

theorem acts_persisting {α : Type} (answer : α) (events : List Event)
    {session acted : Session σ κ} (move : Move)
    (game : acted.game = (session.game.perform move).after)
    (autosave : acted.autosave = session.autosave) :
    Acts session
      ((persisting answer events acted).answer.map fun _ => ())
      (persisting answer events acted).after := by
  have cases := persist_cases acted
  unfold persisting
  cases persisted : acted.persist with
  | mk result after =>
      rw [persisted] at cases
      rcases cases with ⟨rfl, kept, clean, same⟩ | ⟨error, rfl, old, same⟩
      · exact .saved move (same.trans game) kept clean
      · exact .refused [move] (Nat.le_refl 1) (same.trans game)
          (old.trans autosave)

theorem acts_act {α : Type}
    {action : Game σ → Outcome GameError α (Game σ)} {session : Session σ κ}
    (move : Move)
    (same : (action session.game).after = (session.game.perform move).after) :
    Acts session ((session.act action).answer.map fun _ => ())
      (session.act action).after := by
  unfold act
  cases answered : (action session.game).answer with
  | error error =>
      simp only [answered]
      exact .rejected
  | ok answer =>
      simp only [answered]
      exact acts_persisting answer _ move same rfl

theorem acts_restart (session : Session σ κ) :
    Acts session (session.restart.answer.map fun _ => ())
      session.restart.after := by
  unfold restart
  cases SaveSlot.clear session.slot with
  | mk answer slot =>
      cases answer with
      | error error => exact .refused [] (Nat.zero_le 1) rfl rfl
      | ok done => exact acts_persisting () _ .restart rfl rfl

theorem accounts_acts {owed : Owed} {session after : Session σ κ}
    {answer : Except SessionError Unit} (accounts : Accounts owed session)
    (acts : Acts session answer after) :
    Accounts (owed.afterMarks (actionMarks answer)) after := by
  cases acts with
  | rejected => exact accounts
  | saved move game kept clean => exact accounts_nothing kept clean
  | refused moves few game autosave =>
      exact {
        edits_eq := (congrArg Autosave.isDirty autosave).trans accounts.edits_eq
        kept := fun _ none => Bool.noConfusion none }

theorem moves_of_acts {session after : Session σ κ}
    {answer : Except SessionError Unit} (acts : Acts session answer after) :
    ∃ moves : List Move, moves.length ≤ 1 ∧
      after.game = session.game.afterMoves moves := by
  cases acts with
  | rejected => exact ⟨[], Nat.zero_le 1, rfl⟩
  | saved move game kept clean => exact ⟨[move], Nat.le_refl 1, game⟩
  | refused moves few game autosave => exact ⟨moves, few, game⟩

/-- A command is an action, an edit of the journal, or leaves the session
alone. -/
theorem obey_cases (session : Session σ κ) (now : Nat) (command : Command) :
    Acts session (session.obey now command).answer
        (session.obey now command).after ∧
        marksOf command (session.obey now command).answer =
          actionMarks (session.obey now command).answer ∨
      (∃ text, (session.obey now command).after = session.edit text now ∧
        marksOf command (session.obey now command).answer = [.noted]) ∨
      (session.obey now command).after = session ∧
        marksOf command (session.obey now command).answer = [] := by
  cases command with
  | roll => exact .inl ⟨acts_act .roll rfl, rfl⟩
  | draw => exact .inl ⟨acts_act .draw rfl, rfl⟩
  | resolve => exact .inl ⟨acts_act .resolve rfl, rfl⟩
  | tokens delta => exact .inl ⟨acts_act (.adjustTokens delta) rfl, rfl⟩
  | restart => exact .inl ⟨acts_restart session, rfl⟩
  | note text => exact .inr (.inl ⟨_, rfl, rfl⟩)
  | _ => exact .inr (.inr ⟨rfl, rfl⟩)

theorem accounts_obey {owed : Owed} {session : Session σ κ}
    (accounts : Accounts owed session) (now : Nat) (command : Command) :
    Accounts
      (owed.afterMarks (marksOf command (session.obey now command).answer))
      (session.obey now command).after := by
  rcases obey_cases session now command with
    ⟨acts, marks⟩ | ⟨text, edited, marks⟩ | ⟨same, marks⟩
  · rw [marks]
    exact accounts_acts accounts acts
  · rw [edited, marks]
    exact {
      edits_eq := rfl
      kept := fun none _ => Bool.noConfusion none }
  · rw [same, marks]
    exact accounts

theorem moves_of_obey (session : Session σ κ) (now : Nat) (command : Command) :
    ∃ moves : List Move, moves.length ≤ 1 ∧
      (session.obey now command).after.game =
        session.game.afterMoves moves := by
  rcases obey_cases session now command with
    ⟨acts, -⟩ | ⟨text, edited, -⟩ | ⟨same, -⟩
  · exact moves_of_acts acts
  · rw [edited]
    exact ⟨[.write text], Nat.le_refl 1, rfl⟩
  · rw [same]
    exact ⟨[], Nat.zero_le 1, rfl⟩

/-! ## Whole scripts -/

theorem accounts_follows {owed : Owed} {session left : Session σ κ}
    {lines : List (Moments × Option String)} {marks : List Mark}
    (accounts : Accounts owed session)
    (follows : Follows lines session marks left) :
    Accounts (owed.afterMarks marks) left := by
  induction follows generalizing owed with
  | ended => exact accounts
  | quit parsed => exact accounts
  | skipped none follows induction => exact induction accounts
  | @obeyed moments _ _ _ _ command _ _ parsed stays flushed follows
      induction =>
      rw [Owed.afterMarks_append, Owed.afterMarks_append]
      have obeyed := accounts_obey accounts moments.edit command
      exact induction (accounts_flush obeyed flushed)

theorem moves_of_follows {session left : Session σ κ}
    {lines : List (Moments × Option String)} {marks : List Mark}
    (follows : Follows lines session marks left) :
    ∃ moves : List Move, moves.length ≤ lines.length ∧
      left.game = session.game.afterMoves moves := by
  induction follows with
  | ended => exact ⟨[], Nat.le_refl 0, rfl⟩
  | quit parsed => exact ⟨[], Nat.zero_le _, rfl⟩
  | skipped none follows induction =>
      obtain ⟨moves, few, game⟩ := induction
      exact ⟨moves, Nat.le_succ_of_le few, game⟩
  | @obeyed moments _ _ session _ command _ _ parsed stays flushed follows
      induction =>
      obtain ⟨later, few, game⟩ := induction
      obtain ⟨first, one, obeyed⟩ :=
        moves_of_obey session moments.edit command
      have same : ((session.obey moments.edit command).after.flush
          moments.flush).after.game =
            (session.obey moments.edit command).after.game := by
        rcases flush_eq_ok flushed with ⟨-, -, -, kept⟩ | ⟨-, kept⟩
        · exact kept
        · rw [kept]
      refine ⟨first ++ later, ?_, ?_⟩
      · rw [List.length_append, List.length_cons]
        omega
      · rw [game, same, obeyed, Game.afterMoves_append]

end Acting

end Session

end SoloJournal
