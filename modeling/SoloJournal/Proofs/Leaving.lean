import Mathlib.Data.Prod.Basic
import SoloJournal.Chance.Seeded
import SoloJournal.Proofs.Accounts
import SoloJournal.Proofs.Reload

/-!
# Leaving the table

On leaving, unsaved edits of the journal are saved.  An action whose save was
refused is not: the game is then behind its slot, and the farewell says nothing
of it.
-/

namespace SoloJournal

open Terminal (Command Moments Setting Style Table TableError)

namespace Session

variable {σ κ : Type} [SaveSlot κ] [LawfulSlot κ]

/-- What saving on leaving comes to, where it succeeds. -/
theorem flushNow_eq_ok {session : Session σ κ} {written : Bool}
    (flushed : session.flushNow.answer = .ok written) :
    session.autosave.isDirty = true ∧ session.flushNow.after.Kept ∧
        session.flushNow.after.game = session.game ∨
      session.autosave.isDirty = false ∧ session.flushNow.after = session := by
  unfold flushNow at flushed ⊢
  split at flushed
  case isTrue dirty =>
    rw [if_pos dirty]
    obtain ⟨-, kept, -, same⟩ := saveJournal_eq_ok flushed
    exact .inl ⟨dirty, kept, same⟩
  case isFalse clean =>
    rw [if_neg clean]
    exact .inr ⟨by simpa using clean, rfl⟩

/-- A session that leaves has its game kept just when it has unsaved edits or
has its game kept already. -/
theorem kept_flushNow_iff {session : Session σ κ} {written : Bool}
    (flushed : session.flushNow.answer = .ok written) :
    session.flushNow.after.Kept ↔
      session.autosave.isDirty = true ∨ session.Kept := by
  rcases flushNow_eq_ok flushed with ⟨dirty, kept, -⟩ | ⟨clean, same⟩
  · exact ⟨fun _ => .inl dirty, fun _ => kept⟩
  · rw [same, clean]
    simp

/-- With the account of what is owed, it is enough to know of the refusals. -/
theorem kept_flushNow_iff_owed {owed : Owed} {session : Session σ κ}
    {written : Bool} (accounts : Accounts owed session)
    (flushed : session.flushNow.answer = .ok written) :
    session.flushNow.after.Kept ↔
      owed.edits = true ∨ owed.refusals = false ∨ session.Kept := by
  rw [kept_flushNow_iff flushed, accounts.edits_eq]
  constructor
  · rintro (edits | kept)
    · exact .inl edits
    · exact .inr (.inr kept)
  · rintro (edits | none | kept)
    · exact .inl edits
    · cases edits : owed.edits with
      | true => exact .inl rfl
      | false => exact .inr (accounts.kept edits none)
    · exact .inr kept

variable [RandomSource σ]

/-- A session that is opened on an empty slot begins with a new game, which the
slot keeps. -/
theorem opened_on_empty {content : Content} {slot : κ} {source : σ}
    {session : Session σ κ} (empty : LawfulSlot.held? slot = none)
    (opened : (resumeOrStart content slot source).answer = .ok session) :
    session.game = Game.start content source ∧ session.Kept ∧
      session.autosave = Autosave.standard := by
  have possible := opens_resumeOrStart content slot source
  generalize resumeOrStart content slot source = outcome at opened possible
  cases possible with
  | resumed loads resumes =>
      have read := LawfulSlot.read_of_load loads
      rw [empty] at read
      cases read
  | @dealt loaded _ loads saves =>
      have held := LawfulSlot.held_save (Game.start content source).saved loaded
      rw [saves] at held
      cases opened
      exact ⟨rfl, held, rfl⟩
  | _ => cases opened

/-- A slot that holds the save of a game which comes back from its save as it
was is opened with that game, if it can be read at all. -/
theorem reopened_game {content : Content} {slot : κ} {game : Game σ}
    (lossless : Game.Lossless content game)
    (held : LawfulSlot.held? slot = some game.saved.toText) (source : σ) :
    (∃ reason, (resumeOrStart content slot source).answer =
        .error (.save (.io reason))) ∨
      ∃ reopened, (resumeOrStart content slot source).answer = .ok reopened ∧
        reopened.game = { game with source } := by
  rcases LawfulSlot.load_eq slot with ⟨reason, unreadable⟩ | loads
  · exact .inl ⟨reason, resumeOrStart_of_unread unreadable⟩
  · rw [held, readHeld, Game.ofText_saved lossless] at loads
    exact .inr (resumeOrStart_of_load loads (Game.resume_saved lossless source))

/-- A script that is followed from a new game leads to a game that comes back
from its save as it was. -/
theorem lossless_follows [LawfulSource σ] {content : Content}
    (playable : content.Playable) {source : σ} {session left : Session σ κ}
    {lines : List (Moments × Option String)} {marks : List Mark}
    (follows : Follows lines session marks left)
    (fresh : session.game = Game.start content source)
    (few : lines.length < UInt32.size) : Game.Lossless content left.game := by
  obtain ⟨moves, fewer, game⟩ := moves_of_follows follows
  rw [game, fresh]
  have none : (Game.start content source).turnCount = 0 := rfl
  exact Game.lossless_afterMoves playable source
    (Game.along_countsOn (by omega))

end Session

namespace Terminal.Table

variable {σ κ : Type} [SaveSlot κ] [LawfulSlot κ] [RandomSource σ]

/-- What a game at the table leaves behind.  Where it reaches its end it has
said that the game is saved.  The slot then holds the final game just when the
journal had unsaved edits, or the slot had refused no call since it last took
the game, or the game had come back to what the slot holds.  And whenever the
slot holds the final game, opening it again goes on with that game. -/
theorem kept_at_the_end_iff [LawfulSource σ] {content : Content} {slot : κ}
    {source : σ} {session : Session σ κ} {setting : Setting}
    {limit : Option Nat} {lines : List (Moments × Option String)}
    {final : Table σ κ} (interval : Nat)
    (empty : LawfulSlot.held? slot = none)
    (opens : (Session.resumeOrStart content slot source).answer = .ok session)
    (ends : play setting lines
      (opened { session with autosave := Autosave.every interval } limit) =
        (.ok (), final)) :
    final.transcript.head? =
        some (.line (setting.style.info "game saved")) ∧
      ∃ marks left,
        Session.Follows lines
            { session with autosave := Autosave.every interval } marks left ∧
          final.session = left.flushNow.after ∧
          (final.session.Kept ↔
            (Owed.nothing.afterMarks marks).edits = true ∨
              (Owed.nothing.afterMarks marks).refusals = false ∨
              left.Kept) ∧
          (final.session.Kept → content.Playable → lines.length < UInt32.size →
            ∀ anew : σ,
              let reopened :=
                Session.resumeOrStart content final.session.slot anew
              (∃ reason, reopened.answer = .error (.save (.io reason))) ∨
                ∃ session, reopened.answer = .ok session ∧
                  session.game =
                    { final.session.game with source := anew }) := by
  obtain ⟨fresh, kept, -⟩ := Session.opened_on_empty empty opens
  -- the greeting shows the game as opened, then the script is followed
  obtain ⟨greeted, shown, taken⟩ := andThen_eq_ok.mp ends
  obtain ⟨marks, leaving, follows, left⟩ := takeLines_eq_ok taken
  obtain ⟨⟨written, flushed⟩, after, farewell⟩ := leave_eq_ok left
  rw [(shows_greet setting).session_eq shown] at follows
  have accounts : Session.Accounts .nothing
      { session with autosave := Autosave.every interval } :=
    Session.accounts_nothing kept rfl
  refine ⟨farewell, marks, leaving.session, follows, after, ?_, ?_⟩
  · rw [after]
    exact Session.kept_flushNow_iff_owed
      (Session.accounts_follows accounts follows) flushed
  · intro held playable few anew
    have same : final.session.game = leaving.session.game := by
      rw [after]
      rcases Session.flushNow_eq_ok flushed with ⟨-, -, same⟩ | ⟨-, same⟩
      · exact same
      · rw [same]
    have lossless : Game.Lossless content final.session.game := by
      rw [same]
      exact Session.lossless_follows playable follows fresh few
    exact Session.reopened_game lossless held anew

/-- A session with a new game that an empty slot has just taken. -/
def begun (slot : κ) (source : σ) : Session σ κ where
  game := Game.start Content.practice source
  slot := (SaveSlot.save (Game.start Content.practice source).saved
    (SaveSlot.load slot).2).2
  autosave := .every 1000

/-- A script that is typed in no time, in front of a plain screen. -/
def typed (script : List String) (session : Session σ κ) :
    Except TableError Unit × Table σ κ :=
  play { story := none, style := .plain }
    (script.map fun line => ({ edit := 0, flush := 0 }, some line))
    (opened session none)

/-- A note that is not saved by itself is saved at the end. -/
theorem kept_at_the_end_iff_noted :
    LawfulSlot.held? MemorySlot.empty = none ∧
      (Session.resumeOrStart Content.practice MemorySlot.empty
        Loaded.threes).answer = .ok (begun MemorySlot.empty Loaded.threes) ∧
      ∃ final,
        typed ["note rain"] (begun MemorySlot.empty Loaded.threes) =
            (.ok (), final) ∧
          final.session.Kept := by
  have empty : LawfulSlot.held? MemorySlot.empty = none := rfl
  have opens : (Session.resumeOrStart Content.practice MemorySlot.empty
      Loaded.threes).answer = .ok (begun MemorySlot.empty Loaded.threes) := rfl
  have reaches : (typed ["note rain"]
      (begun MemorySlot.empty Loaded.threes)).1 = .ok () := by
    decide +kernel
  have ends : typed ["note rain"] (begun MemorySlot.empty Loaded.threes) =
      (.ok (),
        (typed ["note rain"] (begun MemorySlot.empty Loaded.threes)).2) :=
    Prod.fst_eq_iff.mp reaches
  have parsed : Command.parse "note rain" = .ok (some (.note "rain")) := by
    decide +kernel
  obtain ⟨-, marks, left, follows, -, kept, -⟩ :=
    kept_at_the_end_iff 1000 empty opens ends
  refine ⟨empty, opens, _, ends, kept.mpr ?_⟩
  cases follows with
  | quit quits =>
      rw [parsed] at quits
      cases quits
  | skipped none rest => exact absurd parsed (none _)
  | @obeyed _ _ _ _ _ _ written _ command stays flushed rest =>
      rw [parsed] at command
      cases command
      cases rest
      cases written with
      | true => exact .inr (.inl rfl)
      | false => exact .inl rfl

/-- An empty slot that refuses to save for the second time. -/
def refusesSecond : FaultySlot MemorySlot where
  inner := MemorySlot.empty
  refuses kind earlier := kind = .save && earlier = 1
  calls _ := 0
  reason := "refused"

/-- A new deal whose save is refused leaves an empty slot behind, and the game
at the table still says that it is saved. -/
theorem nothing_kept_at_the_end :
    LawfulSlot.held? refusesSecond = none ∧
      (Session.resumeOrStart Content.practice refusesSecond
        (Seeded.ofSeed 17)).answer =
          .ok (begun refusesSecond (Seeded.ofSeed 17)) ∧
      ∃ final,
        typed ["new", "quit"] (begun refusesSecond (Seeded.ofSeed 17)) =
            (.ok (), final) ∧
          final.transcript.head? =
            some (.line (Style.plain.info "game saved")) ∧
          LawfulSlot.held? final.session.slot = none ∧
          ¬ final.session.Kept := by
  have runs : (typed ["new", "quit"]
        (begun refusesSecond (Seeded.ofSeed 17))).1 = .ok () ∧
      (typed ["new", "quit"]
          (begun refusesSecond (Seeded.ofSeed 17))).2.transcript.head? =
        some (.line (Style.plain.info "game saved")) ∧
      LawfulSlot.held? (typed ["new", "quit"]
        (begun refusesSecond (Seeded.ofSeed 17))).2.session.slot = none := by
    decide +kernel
  obtain ⟨reaches, farewell, nothing⟩ := runs
  refine ⟨rfl, rfl, _, Prod.fst_eq_iff.mp reaches, farewell, nothing, ?_⟩
  intro kept
  rw [Session.Kept, nothing] at kept
  cases kept

end Terminal.Table

end SoloJournal
