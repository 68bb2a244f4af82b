import SoloJournal.Proofs.Deeds
import SoloJournal.Proofs.Leaving

/-!
# The last save

Whatever calls a slot refuses, it holds the game as it was when the slot last
took it, or nothing where a clear has succeeded since.  A journal that differs
from the one in the slot is known to be unsaved, so that a later flush writes
it.
-/

namespace SoloJournal

namespace LawfulSlot

variable {κ : Type} [SaveSlot κ] [LawfulSlot κ] {slot after : κ}
  {kept : Option SavedGame}

/-- The slot holds a text that spells the saved game, or nothing. -/
def Holds (slot : κ) : Option SavedGame → Prop
  | none => held? slot = none
  | some saved => ∃ text, held? slot = some text ∧
      (Json.parse? text).bind Wire.read = some saved

theorem Holds.of_held_eq (holds : Holds slot kept)
    (same : held? after = held? slot) : Holds after kept := by
  cases kept with
  | none => exact same.trans holds
  | some saved =>
      obtain ⟨text, held, spelled⟩ := holds
      exact ⟨text, same.trans held, spelled⟩

theorem holds_saved {saved : SavedGame}
    (held : held? slot = some saved.toText) : Holds slot (some saved) :=
  ⟨saved.toText, held, SavedGame.read_toText saved⟩

theorem held_call (request : Request) (slot : κ) :
    held? (request.call slot).2 =
      if (request.call slot).1.isOk then request.kept.map SavedGame.toText
      else held? slot := by
  cases request with
  | save saved => exact held_save saved slot
  | clear => exact held_clear slot

theorem holds_granted {request : Request}
    (granted : request.call slot = (.ok (), after)) :
    Holds after request.kept := by
  have held := held_call request slot
  rw [granted] at held
  cases request with
  | save saved => exact holds_saved held
  | clear => exact held

theorem Holds.refused {request : Request} {error : SaveError}
    (holds : Holds slot kept)
    (refused : request.call slot = (.error error, after)) :
    Holds after kept := by
  have held := held_call request slot
  rw [refused] at held
  exact holds.of_held_eq held

theorem Holds.carryOut (holds : Holds slot kept) (requests : List Request) :
    Holds (Request.carryOut slot requests).2
      (keptAfter kept (Request.carryOut slot requests).1) := by
  induction requests generalizing slot kept with
  | nil => exact holds
  | cons request requests induction =>
      rw [Request.carryOut]
      cases called : request.call slot with
      | mk answer after =>
          cases answer with
          | ok done => exact induction (holds_granted called)
          | error error => exact holds.refused called

end LawfulSlot

/-! ## Sessions and their last saves -/

/-- The journal of what is kept; where nothing is kept it is empty. -/
def keptJournal (kept : Option SavedGame) : String :=
  (kept.map SavedGame.journal).getD ""

namespace Session

open LawfulSlot (Holds)

variable {σ κ : Type} [SaveSlot κ] [LawfulSlot κ]

/-- What is kept of a session is in its slot, and it has the journal of the
game unless the session knows better. -/
structure Backed (kept : Option SavedGame) (session : Session σ κ) : Prop where
  holds : Holds session.slot kept
  journal_eq : session.autosave.isDirty = false →
    keptJournal kept = session.game.journal

/-- A flush that is not refused leaves the journal of the game in the slot. -/
theorem journal_flushNow {kept : Option SavedGame} {session : Session σ κ}
    (backed : Backed kept session) {written : Bool}
    (flushed : session.flushNow.answer = .ok written) :
    ∃ kept, Holds session.flushNow.after.slot kept ∧
      keptJournal kept = session.game.journal := by
  rcases flushNow_eq_ok flushed with ⟨-, held, same⟩ | ⟨clean, same⟩
  · refine ⟨some session.flushNow.after.game.saved,
      LawfulSlot.holds_saved held, ?_⟩
    rw [same]
    rfl
  · rw [same]
    exact ⟨kept, backed.holds, backed.journal_eq clean⟩

variable [RandomSource σ]

theorem backed_perform {kept : Option SavedGame} {session : Session σ κ}
    (backed : Backed kept session) (deed : Deed) :
    Backed (keptAfter kept (session.granted deed))
      (session.perform deed).after where
  holds := by
    rw [slot_perform]
    exact backed.holds.carryOut (session.requests deed)
  journal_eq := by
    have does := does_perform session deed
    unfold granted
    generalize session.perform deed = outcome at does
    generalize Request.carryOut session.slot (session.requests deed) = made
      at does
    have before := backed.journal_eq
    cases does with
    | @unsaved _ move _ _ _ action =>
        -- the slot is behind the game, but not with the journal
        intro clean
        exact (before clean).trans
          (Game.journal_perform (Deed.isAction_of_action? action)).symm
    | edited =>
        intro clean
        cases clean
    | rejected => exact before
    | uncleared => exact before
    | waited => exact before
    | unflushed => exact before
    | played => exact fun _ => rfl
    | dealt => exact fun _ => rfl
    | dealtUnsaved => exact fun _ => rfl
    | flushed => exact fun _ => rfl

theorem backed_afterDeeds {kept : Option SavedGame} {session : Session σ κ}
    (backed : Backed kept session) (deeds : List Deed) :
    Backed (keptAfter kept (session.grantedAlong deeds))
      (session.afterDeeds deeds) := by
  induction deeds generalizing session kept with
  | nil => exact backed
  | cons deed deeds induction =>
      rw [grantedAlong, keptAfter_append]
      exact induction (backed_perform backed deed)

/-- What a session is opened with: the saved game that the slot holds, which is
gone on with, or that of a new game where the slot is empty. -/
inductive OpenedWith (content : Content) (slot : κ) (source : σ) :
    SavedGame → Game σ → Prop where
  | resumed {saved : SavedGame} {game : Game σ} :
      readHeld (LawfulSlot.held? slot) = .ok (some saved) →
      Game.resume content saved source = .ok game →
      OpenedWith content slot source saved game
  | dealt :
      LawfulSlot.held? slot = none →
      OpenedWith content slot source (Game.start content source).saved
        (Game.start content source)

theorem OpenedWith.journal_eq {content : Content} {slot : κ} {source : σ}
    {saved : SavedGame} {game : Game σ}
    (opened : OpenedWith content slot source saved game) :
    saved.journal = game.journal := by
  cases opened with
  | resumed read resumes => exact (Game.journal_resume resumes).symm
  | dealt => rfl

theorem holds_opened [QuietSlot κ] {content : Content} {slot : κ} {source : σ}
    {session : Session σ κ}
    (opens : (resumeOrStart content slot source).answer = .ok session) :
    ∃ saved, OpenedWith content slot source saved session.game ∧
      Holds session.slot (some saved) := by
  rcases resumeOrStart_eq_ok opens with
    ⟨saved, after, loads, resumes, same⟩ | ⟨after, loads, fresh, saves⟩
  · have read := LawfulSlot.read_of_load loads
    have quiet := QuietSlot.held_load slot
    rw [loads] at quiet
    obtain ⟨text, held, taken⟩ := readHeld_eq_some_iff.mp read
    rw [same]
    exact ⟨saved, .resumed read resumes, text, quiet.trans held,
      (SavedGame.ofText_eq_ok_iff.mp taken).1⟩
  · have held := LawfulSlot.held_save session.game.saved after
    rw [saves] at held
    have empty := readHeld_eq_none_iff.mp (LawfulSlot.read_of_load loads)
    refine ⟨session.game.saved, ?_, LawfulSlot.holds_saved held⟩
    rw [fresh]
    exact .dealt empty

theorem backed_opened {content : Content} {slot : κ} {source : σ}
    {session : Session σ κ} {saved : SavedGame} (autosave : Autosave)
    (opened : OpenedWith content slot source saved session.game)
    (holds : Holds session.slot (some saved)) :
    Backed (some saved) { session with autosave } where
  holds := holds
  journal_eq _ := opened.journal_eq

/-- The slot of a session always holds the game as it was when the slot last
took it, or nothing where it has been cleared since, no matter which of its
calls are refused.  While its journal is not that of the game, the session has
unsaved edits; so a flush that is not refused leaves no edit behind. -/
theorem last_save_held [QuietSlot κ] {content : Content} {slot : κ}
    {source : σ} {session : Session σ κ} (autosave : Autosave)
    (opens : (resumeOrStart content slot source).answer = .ok session) :
    ∃ opened, OpenedWith content slot source opened session.game ∧
      ∀ deeds : List Deed,
        let begun := { session with autosave }
        let final := begun.afterDeeds deeds
        let kept := keptAfter (some opened) (begun.grantedAlong deeds)
        Holds final.slot kept ∧
          (keptJournal kept ≠ final.game.journal →
            final.autosave.isDirty = true) ∧
          (∀ written, final.flushNow.answer = .ok written →
            ∃ kept, Holds final.flushNow.after.slot kept ∧
              keptJournal kept = final.game.journal) ∧
          ∀ deed,
            (final.perform deed).after.slot =
                (Request.carryOut final.slot (final.requests deed)).2 ∧
              ∀ saved, .save saved ∈ final.granted deed →
                saved = (final.perform deed).after.game.saved := by
  obtain ⟨opened, openedWith, holds⟩ := holds_opened opens
  refine ⟨opened, openedWith, ?_⟩
  intro deeds begun final kept
  have backed : Backed kept final :=
    backed_afterDeeds (backed_opened autosave openedWith holds) deeds
  refine ⟨backed.holds, ?_, ?_, ?_⟩
  · intro differs
    cases dirty : final.autosave.isDirty with
    | true => rfl
    | false => exact absurd (backed.journal_eq dirty) differs
  · intro written flushed
    exact journal_flushNow backed flushed
  · intro deed
    exact ⟨slot_perform final deed, fun saved => saved_of_mem_granted⟩

open Terminal.Table (begun refusesSecond) in
/-- Where the slot refuses to take an edit of the journal, it still holds the
game as it was dealt, and the session knows of the edit. -/
theorem last_save_held_refused :
    (resumeOrStart Content.practice refusesSecond Loaded.threes).answer =
        .ok (begun refusesSecond Loaded.threes) ∧
      let final := (begun refusesSecond Loaded.threes).afterDeeds
        [.edit "rain" 0, .flushNow]
      Holds final.slot (some (Game.start Content.practice Loaded.threes).saved) ∧
        final.autosave.isDirty = true := by
  have opens : (resumeOrStart Content.practice refusesSecond
      Loaded.threes).answer = .ok (begun refusesSecond Loaded.threes) := rfl
  obtain ⟨opened, openedWith, later⟩ := last_save_held (.every 1000) opens
  obtain ⟨holds, dirty, -, -⟩ := later [.edit "rain" 0, .flushNow]
  cases openedWith with
  | resumed read resumes => cases read
  | dealt empty =>
      refine ⟨opens, holds, dirty ?_⟩
      show "" ≠ "rain"
      decide

end Session

end SoloJournal
