import SoloJournal.Proofs.LastSave

/-!
# Writing through

On a slot that refuses nothing every accepted action is in the slot before it
is answered.  Loading the slot and going on with what it holds gives the game
of the session at any time, but for edits of the journal that are still to be
written.
-/

namespace SoloJournal

namespace UnfailingSlot

variable {κ : Type} [SaveSlot κ] [LawfulSlot κ] [UnfailingSlot κ]
  {slot after : κ} {error : SaveError}

theorem save_ne_error {saved : SavedGame} :
    SaveSlot.save saved slot ≠ (.error error, after) := by
  intro refused
  have granted := save_ok saved slot
  rw [refused] at granted
  cases granted

theorem clear_ne_error : SaveSlot.clear slot ≠ (.error error, after) := by
  intro refused
  have granted := clear_ok slot
  rw [refused] at granted
  cases granted

theorem carryOut_fst (slot : κ) (requests : List Request) :
    (Request.carryOut slot requests).1 = requests := by
  induction requests generalizing slot with
  | nil => rfl
  | cons request requests induction =>
      have granted : (request.call slot).1 = .ok () := by
        cases request with
        | save saved => exact save_ok saved slot
        | clear => exact clear_ok slot
      rw [Request.carryOut]
      cases called : request.call slot with
      | mk answer after =>
          rw [called] at granted
          cases granted
          exact congrArg (request :: ·) (induction after)

end UnfailingSlot

namespace Game

variable {σ : Type}

theorem saved_with_journal (game : Game σ) :
    { game.saved with journal := game.journal } = game.saved :=
  rfl

/-- Going on with a saved game gives the game, but for its journal, whatever
source of chance is at hand. -/
def RestoredBy (content : Content) (saved : SavedGame) (game : Game σ) : Prop :=
  ∀ anew : σ, ∃ restored, resume content saved anew = .ok restored ∧
    restored.saved = { game.saved with journal := saved.journal }

theorem restoredBy_saved {content : Content} {game : Game σ}
    (resumable : Resumable content game) :
    RestoredBy content game.saved game := by
  intro anew
  exact ⟨_, resumable.resume_saved anew, rfl⟩

theorem restoredBy_resume {content : Content} {saved : SavedGame} {source : σ}
    {game : Game σ} (resumed : resume content saved source = .ok game) :
    RestoredBy content saved game := by
  intro anew
  obtain ⟨signed, flawless, rfl⟩ := resume_eq_ok_iff.mp resumed
  exact ⟨_, resume_eq_ok_iff.mpr ⟨signed, flawless, rfl⟩, rfl⟩

theorem restoredBy_write {content : Content} {saved : SavedGame}
    {game : Game σ} (restored : RestoredBy content saved game) (text : String) :
    RestoredBy content saved (game.write text) :=
  restored

theorem flaw?_of_restoredBy {content : Content} {saved : SavedGame}
    {game : Game σ} (restored : RestoredBy content saved game) :
    saved.flaw? = none := by
  obtain ⟨_, resumes, -⟩ := restored game.source
  exact (resume_eq_ok_iff.mp resumes).2.1

end Game

namespace Deed

/-- What a deed is to write, by its answer and the game after it: an action
saves the game, a new deal clears the slot first, and a flush saves the game if
it says so.  Nothing else writes. -/
def writes {ε σ κ : Type} (deed : Deed)
    (outcome : Outcome ε DeedAnswer (Session σ κ)) : List Request :=
  match deed, outcome.answer with
  | .edit _ _, _ => []
  | .restart, .ok _ => [.clear, .save outcome.after.game.saved]
  | _, .ok (.played _) => [.save outcome.after.game.saved]
  | _, .ok (.flushed true) => [.save outcome.after.game.saved]
  | _, _ => []

end Deed

namespace Session

open LawfulSlot (Holds)

variable {σ κ : Type} [SaveSlot κ] [LawfulSlot κ]

/-- The slot holds a save that brings back the game of the session, but for
edits of the journal that the session knows of. -/
structure WrittenThrough (content : Content) (last : SavedGame)
    (session : Session σ κ) : Prop where
  backed : Backed (some last) session
  version_eq : last.version = SavedGame.currentVersion
  resumable : Game.Resumable content session.game
  restored : Game.RestoredBy content last session.game

theorem writtenThrough_saved {content : Content} {session : Session σ κ}
    (backed : Backed (some session.game.saved) session)
    (resumable : Game.Resumable content session.game) :
    WrittenThrough content session.game.saved session where
  backed := backed
  version_eq := rfl
  resumable := resumable
  restored := Game.restoredBy_saved resumable

theorem load_of_writtenThrough [UnfailingSlot κ] {content : Content}
    {last : SavedGame} {session : Session σ κ}
    (through : WrittenThrough content last session) :
    (SaveSlot.load session.slot).1 = .ok (some last) := by
  obtain ⟨text, held, spelled⟩ := through.backed.holds
  have flawless := Game.flaw?_of_restoredBy through.restored
  have taken : SavedGame.ofText text = .ok last :=
    SavedGame.ofText_eq_ok_iff.mpr ⟨spelled, through.version_eq, flawless⟩
  rw [UnfailingSlot.load_ok]
  exact readHeld_eq_some_iff.mpr ⟨text, held, taken⟩

variable [RandomSource σ]

/-- All that a deed can come to where the slot refuses nothing, with the
requests that are granted. -/
inductive Goes (session : Session σ κ) : Deed → List Request →
    Outcome SessionError DeedAnswer (Session σ κ) → Prop where
  | rejected {deed : Deed} {move : Move} {error : GameError} :
      deed.action? = some move →
      session.game.perform move = .refuse error session.game →
      Goes session deed [] (.refuse (.game error) session)
  | played {deed : Deed} {move : Move} {answer : MoveAnswer} {slot : κ} :
      deed.action? = some move →
      (session.game.perform move).answer = .ok answer →
      Goes session deed [.save (session.game.perform move).after.saved]
        (.accept (.played answer) (session.game.perform move).events
          { game := (session.game.perform move).after, slot
            autosave := session.autosave.markSaved })
  | dealt {slot : κ} :
      Goes session .restart [.clear, .save session.game.restart.2.saved]
        (.accept (.played .done) session.game.restart.1
          { game := session.game.restart.2, slot
            autosave := session.autosave.markSaved })
  | edited {text : String} {now : Nat} :
      Goes session (.edit text now) []
        (.accept (.played .done) [] (session.edit text now))
  | waited {deed : Deed} :
      session.due? deed = some false →
      Goes session deed [] (.accept (.flushed false) [] session)
  | flushed {deed : Deed} {slot : κ} :
      session.due? deed = some true →
      Goes session deed [.save session.game.saved]
        (.accept (.flushed true) [.journalSaved session.game.journal.length]
          { session with slot, autosave := session.autosave.markSaved })

theorem goes_perform [UnfailingSlot κ] (session : Session σ κ) (deed : Deed) :
    Goes session deed (session.granted deed) (session.perform deed) := by
  have does := does_perform session deed
  unfold granted
  generalize session.perform deed = outcome at does
  generalize Request.carryOut session.slot (session.requests deed) = made at does
  cases does with
  | rejected action refused => exact .rejected action refused
  | played action accepted => exact .played action accepted
  | dealt => exact .dealt
  | edited => exact .edited
  | waited waits => exact .waited waits
  | flushed flushes => exact .flushed flushes
  -- in what is left the slot has refused a call
  | unsaved _ _ refused => exact absurd refused UnfailingSlot.save_ne_error
  | uncleared refused => exact absurd refused UnfailingSlot.clear_ne_error
  | dealtUnsaved _ refused => exact absurd refused UnfailingSlot.save_ne_error
  | unflushed _ refused => exact absurd refused UnfailingSlot.save_ne_error

/-- What a deed leaves behind where the slot refuses nothing. -/
structure Unhindered (session : Session σ κ) (deed : Deed)
    (made : List Request) (outcome : Outcome SessionError DeedAnswer (Session σ κ)) :
    Prop where
  game_eq : outcome.after.game =
    match deed.move? with
    | some move => (session.game.perform move).after
    | none => session.game
  unchanged : ∀ error, outcome.answer = .error error →
    (∃ reason, error = .game reason) ∧ outcome.after = session
  made_eq : made = deed.writes outcome
  last_made : (∀ kept, keptAfter kept made = some outcome.after.game.saved) ∨
    made = [] ∧ ∃ text, outcome.after.game = session.game.write text

theorem unhindered_perform [UnfailingSlot κ] (session : Session σ κ)
    (deed : Deed) :
    Unhindered session deed (session.granted deed) (session.perform deed) := by
  have goes := goes_perform session deed
  generalize session.granted deed = made at goes
  generalize session.perform deed = outcome at goes
  cases goes with
  | rejected action refused =>
      exact {
        game_eq := by
          rw [Deed.move?_of_action? action]
          simp only [refused]
          rfl
        unchanged := by
          rintro error ⟨⟩
          exact ⟨⟨_, rfl⟩, rfl⟩
        made_eq := by cases deed <;> cases action <;> rfl
        last_made := .inr ⟨rfl, session.game.journal, rfl⟩ }
  | played action accepted =>
      exact {
        game_eq := by
          rw [Deed.move?_of_action? action]
          rfl
        unchanged := by rintro error ⟨⟩
        made_eq := by cases deed <;> cases action <;> rfl
        last_made := .inl fun _ => rfl }
  | dealt =>
      exact {
        game_eq := rfl
        unchanged := by rintro error ⟨⟩
        made_eq := rfl
        last_made := .inl fun _ => rfl }
  | @edited text now =>
      exact {
        game_eq := rfl
        unchanged := by rintro error ⟨⟩
        made_eq := rfl
        last_made := .inr ⟨rfl, text, rfl⟩ }
  | waited flushes =>
      exact {
        game_eq := by
          rw [move?_of_due? flushes]
          rfl
        unchanged := by rintro error ⟨⟩
        made_eq := by cases deed <;> first | rfl | cases flushes
        last_made := .inr ⟨rfl, session.game.journal, rfl⟩ }
  | flushed flushes =>
      exact {
        game_eq := by
          rw [move?_of_due? flushes]
          rfl
        unchanged := by rintro error ⟨⟩
        made_eq := by cases deed <;> first | rfl | cases flushes
        last_made := .inl fun _ => rfl }

theorem writtenThrough_perform [UnfailingSlot κ] [LawfulSource σ]
    {content : Content} (playable : content.Playable) {last : SavedGame}
    {session : Session σ κ} (through : WrittenThrough content last session)
    {deed : Deed}
    (counts : ∀ move, deed.move? = some move → session.game.CountsOn move) :
    ∃ next, keptAfter (some last) (session.granted deed) = some next ∧
      WrittenThrough content next (session.perform deed).after := by
  have unhindered := unhindered_perform session deed
  have backed := backed_perform through.backed deed
  have resumable : Game.Resumable content (session.perform deed).after.game := by
    rw [unhindered.game_eq]
    split
    case h_1 move moves =>
      exact Game.resumable_perform playable through.resumable (counts move moves)
    case h_2 => exact through.resumable
  rcases unhindered.last_made with saved | ⟨nothing, text, edited⟩
  · have kept := saved (some last)
    rw [kept] at backed
    exact ⟨_, kept, writtenThrough_saved backed resumable⟩
  · rw [nothing] at backed ⊢
    exact ⟨last, rfl, {
      backed := backed
      version_eq := through.version_eq
      resumable := resumable
      restored := edited ▸ Game.restoredBy_write through.restored text }⟩

theorem along_perform [UnfailingSlot κ] {session : Session σ κ} {deed : Deed}
    {deeds : List Deed}
    (counted : session.game.Along Game.CountsOn
      ((deed :: deeds).filterMap Deed.move?)) :
    (∀ move, deed.move? = some move → session.game.CountsOn move) ∧
      (session.perform deed).after.game.Along Game.CountsOn
        (deeds.filterMap Deed.move?) := by
  have game := (unhindered_perform session deed).game_eq
  rw [List.filterMap_cons] at counted
  cases moves : deed.move? with
  | none =>
      rw [moves] at counted game
      rw [game]
      exact ⟨nofun, counted⟩
  | some move =>
      rw [moves] at counted game
      rw [game]
      refine ⟨?_, counted.2⟩
      rintro _ ⟨⟩
      exact counted.1

theorem writtenThrough_afterDeeds [UnfailingSlot κ] [LawfulSource σ]
    {content : Content} (playable : content.Playable) {last : SavedGame}
    {session : Session σ κ} (through : WrittenThrough content last session)
    {deeds : List Deed}
    (counted : session.game.Along Game.CountsOn (deeds.filterMap Deed.move?)) :
    ∃ next, keptAfter (some last) (session.grantedAlong deeds) = some next ∧
      WrittenThrough content next (session.afterDeeds deeds) := by
  induction deeds generalizing session last with
  | nil => exact ⟨last, rfl, through⟩
  | cons deed deeds induction =>
      obtain ⟨counts, later⟩ := along_perform counted
      obtain ⟨next, kept, written⟩ :=
        writtenThrough_perform playable through counts
      rw [grantedAlong, keptAfter_append, kept]
      exact induction written later

theorem restoredBy_openedWith {content : Content} (playable : content.Playable)
    {slot : κ} {source : σ} {saved : SavedGame} {game : Game σ}
    (opened : OpenedWith content slot source saved game) :
    saved.version = SavedGame.currentVersion ∧ Game.Resumable content game ∧
      Game.RestoredBy content saved game := by
  cases opened with
  | resumed read resumes =>
      obtain ⟨text, -, taken⟩ := readHeld_eq_some_iff.mp read
      exact ⟨(SavedGame.ofText_eq_ok_iff.mp taken).2.1,
        Game.resumable_resume resumes, Game.restoredBy_resume resumes⟩
  | dealt empty =>
      have resumable := (Game.lossless_start playable source).resumable
      exact ⟨rfl, resumable, Game.restoredBy_saved resumable⟩

/-- Writing through.  On a slot that refuses nothing, loading it and going on
with the save gives the game of the session after any deeds, in everything but
the journal; the journal is that of the last save, and differs from that of the
game only while the session has unsaved edits.  A deed leaves in the slot just
what `Deed.writes` says, and one that is refused is refused by the game and
changes nothing. -/
theorem written_through [UnfailingSlot κ] [LawfulSource σ] {content : Content}
    (playable : content.Playable) {slot : κ} {source : σ}
    {session : Session σ κ} (autosave : Autosave)
    (opens : (resumeOrStart content slot source).answer = .ok session) :
    ∃ opened, OpenedWith content slot source opened session.game ∧
      ∀ deeds : List Deed,
        session.game.Along Game.CountsOn (deeds.filterMap Deed.move?) →
          let begun := { session with autosave }
          let final := begun.afterDeeds deeds
          (∃ last,
            keptAfter (some opened) (begun.grantedAlong deeds) = some last ∧
              (SaveSlot.load final.slot).1 = .ok (some last) ∧
              (∀ anew : σ, ∃ restored,
                Game.resume content last anew = .ok restored ∧
                  restored.saved =
                    { final.game.saved with journal := last.journal }) ∧
              (final.autosave.isDirty = false →
                last.journal = final.game.journal)) ∧
            ∀ deed,
              let outcome := final.perform deed
              final.granted deed = deed.writes outcome ∧
                outcome.after.slot =
                  (Request.carryOut final.slot (deed.writes outcome)).2 ∧
                ∀ error, outcome.answer = .error error →
                  (∃ reason, error = .game reason) ∧ outcome.after = final := by
  obtain ⟨opened, openedWith, holds⟩ := holds_opened opens
  refine ⟨opened, openedWith, ?_⟩
  intro deeds counted begun final
  obtain ⟨version, resumable, restored⟩ :=
    restoredBy_openedWith playable openedWith
  have through : WrittenThrough content opened begun :=
    { backed := backed_opened autosave openedWith holds
      version_eq := version, resumable, restored }
  obtain ⟨last, kept, written⟩ :=
    writtenThrough_afterDeeds playable through counted
  constructor
  · exact ⟨last, kept, load_of_writtenThrough written, written.restored,
      written.backed.journal_eq⟩
  · intro deed outcome
    have unhindered := unhindered_perform final deed
    have requests : final.requests deed = deed.writes outcome :=
      (UnfailingSlot.carryOut_fst final.slot _).symm.trans unhindered.made_eq
    refine ⟨unhindered.made_eq, ?_, unhindered.unchanged⟩
    rw [← requests]
    exact slot_perform final deed

open Terminal.Table (begun) in
/-- Once a note on a drawn card is written, the slot gives the whole game
back. -/
theorem written_through_noted :
    Content.practice.Playable ∧
      (resumeOrStart Content.practice MemorySlot.empty Loaded.threes).answer =
        .ok (begun MemorySlot.empty Loaded.threes) ∧
      let deeds := [.draw, .edit "rain" 0, .draw, .flushNow]
      let final := (begun MemorySlot.empty Loaded.threes).afterDeeds deeds
      (begun MemorySlot.empty Loaded.threes).game.Along Game.CountsOn
          (deeds.filterMap Deed.move?) ∧
        final.game.journal = "rain" ∧
        ∃ last restored, (SaveSlot.load final.slot).1 = .ok (some last) ∧
          Game.resume Content.practice last Loaded.threes = .ok restored ∧
          restored.saved = final.game.saved := by
  have opens : (resumeOrStart Content.practice MemorySlot.empty
      Loaded.threes).answer = .ok (begun MemorySlot.empty Loaded.threes) := rfl
  have counted : (begun MemorySlot.empty Loaded.threes).game.Along Game.CountsOn
      ([.draw, .edit "rain" 0, .draw, .flushNow].filterMap Deed.move?) :=
    Game.along_countsOn (by decide)
  have written :
      ((begun MemorySlot.empty Loaded.threes).afterDeeds
          [.draw, .edit "rain" 0, .draw, .flushNow]).autosave.isDirty = false ∧
        ((begun MemorySlot.empty Loaded.threes).afterDeeds
          [.draw, .edit "rain" 0, .draw, .flushNow]).game.journal = "rain" := by
    decide +kernel
  obtain ⟨opened, -, later⟩ :=
    written_through Content.practice_playable (.every 1000) opens
  obtain ⟨⟨last, -, loaded, restores, clean⟩, -⟩ :=
    later [.draw, .edit "rain" 0, .draw, .flushNow] counted
  obtain ⟨restored, resumes, same⟩ := restores Loaded.threes
  have journal := clean written.1
  refine ⟨Content.practice_playable, opens, counted, written.2, last, restored,
    loaded, resumes, ?_⟩
  rw [same, journal]
  exact Game.saved_with_journal _

end Session

end SoloJournal
