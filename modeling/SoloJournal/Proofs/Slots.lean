import SoloJournal.Save.Session

/-!
# What a slot holds

A slot that keeps to its word holds the text that was last written to it, or
nothing once it has been emptied.  A call that fails leaves that as it was, and
there are slots where no call does.  `Session.Kept` says that a session's slot holds its game as it stands.
-/

namespace SoloJournal

/-- Reading what a slot holds. -/
def readHeld : Option String → Except SaveError (Option SavedGame)
  | none => .ok none
  | some text => (SavedGame.ofText text).map some

theorem readHeld_eq_none_iff {held : Option String} :
    readHeld held = .ok none ↔ held = none := by
  cases held with
  | none => simp [readHeld]
  | some text =>
      cases taken : SavedGame.ofText text <;> simp [readHeld, taken, Except.map]

theorem readHeld_eq_some_iff {held : Option String} {saved : SavedGame} :
    readHeld held = .ok (some saved) ↔
      ∃ text, held = some text ∧ SavedGame.ofText text = .ok saved := by
  cases held with
  | none => simp [readHeld]
  | some text =>
      cases taken : SavedGame.ofText text <;> simp [readHeld, taken, Except.map]

/-- A slot with what it holds, which only a call that succeeds changes.  A game
is loaded by reading what is held, unless the slot cannot be read at all. -/
class LawfulSlot (κ : Type) [SaveSlot κ] where
  held? : κ → Option String
  load_eq : ∀ slot : κ,
    (∃ reason, (SaveSlot.load slot).1 = .error (.io reason)) ∨
      (SaveSlot.load slot).1 = readHeld (held? slot)
  held_save : ∀ (saved : SavedGame) (slot : κ),
    held? (SaveSlot.save saved slot).2 =
      if (SaveSlot.save saved slot).1.isOk then some saved.toText
      else held? slot
  held_clear : ∀ slot : κ,
    held? (SaveSlot.clear slot).2 =
      if (SaveSlot.clear slot).1.isOk then none else held? slot

/-- What is loaded is read from what the slot holds. -/
theorem LawfulSlot.read_of_load {κ : Type} [SaveSlot κ] [LawfulSlot κ]
    {slot after : κ} {found : Option SavedGame}
    (loads : SaveSlot.load slot = (.ok found, after)) :
    readHeld (held? slot) = .ok found := by
  have loaded := load_eq slot
  rw [loads] at loaded
  rcases loaded with ⟨reason, unreadable⟩ | read
  · cases unreadable
  · exact read.symm

theorem MemorySlot.load_eq (slot : MemorySlot) :
    slot.load = readHeld slot.text := by
  unfold load readHeld
  cases slot.text <;> rfl

instance : LawfulSlot MemorySlot where
  held? := MemorySlot.text
  load_eq slot := .inr slot.load_eq
  held_save _ _ := rfl
  held_clear _ := rfl

/-- A slot that is not changed by loading from it. -/
class QuietSlot (κ : Type) [SaveSlot κ] [LawfulSlot κ] : Prop where
  held_load : ∀ slot : κ,
    LawfulSlot.held? (SaveSlot.load slot).2 = LawfulSlot.held? slot

instance : QuietSlot MemorySlot where
  held_load _ := rfl

/-- A slot that refuses no call and is always read as what it holds. -/
class UnfailingSlot (κ : Type) [SaveSlot κ] [LawfulSlot κ] : Prop
    extends QuietSlot κ where
  load_ok : ∀ slot : κ,
    (SaveSlot.load slot).1 = readHeld (LawfulSlot.held? slot)
  save_ok : ∀ (saved : SavedGame) (slot : κ),
    (SaveSlot.save saved slot).1 = .ok ()
  clear_ok : ∀ slot : κ, (SaveSlot.clear slot).1 = .ok ()

instance : UnfailingSlot MemorySlot where
  load_ok slot := slot.load_eq
  save_ok _ _ := rfl
  clear_ok _ := rfl

namespace FaultySlot

variable {κ : Type}

/-- A call is either refused, and does nothing, or made. -/
theorem attempt_cases {α : Type} (kind : SlotCall)
    (call : κ → Except SaveError α × κ) (slot : FaultySlot κ) :
    (∃ reason, (slot.attempt kind call).1 = .error (.io reason) ∧
        (slot.attempt kind call).2.inner = slot.inner) ∨
      (slot.attempt kind call).1 = (call slot.inner).1 ∧
        (slot.attempt kind call).2.inner = (call slot.inner).2 := by
  unfold attempt
  split
  · exact .inl ⟨_, rfl, rfl⟩
  · exact .inr ⟨rfl, rfl⟩

variable [SaveSlot κ] [LawfulSlot κ]

/-- A call that changes what a slot holds just when it succeeds, still does so
when it may be refused. -/
theorem held_attempt {α : Type} (kind : SlotCall)
    {call : κ → Except SaveError α × κ} {slot : FaultySlot κ}
    {written : Option String}
    (held : LawfulSlot.held? (call slot.inner).2 =
      if (call slot.inner).1.isOk then written
      else LawfulSlot.held? slot.inner) :
    LawfulSlot.held? (slot.attempt kind call).2.inner =
      if (slot.attempt kind call).1.isOk then written
      else LawfulSlot.held? slot.inner := by
  rcases attempt_cases kind call slot with ⟨reason, refused, same⟩ | ⟨answer, same⟩
  · rw [refused, same]
    rfl
  · rw [answer, same]
    exact held

instance : LawfulSlot (FaultySlot κ) where
  held? slot := LawfulSlot.held? slot.inner
  load_eq slot := by
    rcases attempt_cases .load SaveSlot.load slot with
      ⟨reason, refused, -⟩ | ⟨answer, -⟩
    · exact .inl ⟨reason, refused⟩
    · rw [show (SaveSlot.load slot).1 = (SaveSlot.load slot.inner).1
        from answer]
      exact LawfulSlot.load_eq slot.inner
  held_save saved slot :=
    held_attempt .save (LawfulSlot.held_save saved slot.inner)
  held_clear slot := held_attempt .clear (LawfulSlot.held_clear slot.inner)

instance [QuietSlot κ] : QuietSlot (FaultySlot κ) where
  held_load slot := by
    show LawfulSlot.held? (slot.attempt .load SaveSlot.load).2.inner =
      LawfulSlot.held? slot.inner
    rcases attempt_cases .load SaveSlot.load slot with
      ⟨reason, -, same⟩ | ⟨-, same⟩
    · rw [same]
    · rw [same, QuietSlot.held_load]

end FaultySlot

namespace Session

section Opening

variable {σ κ : Type} [SaveSlot κ] [RandomSource σ]

/-- All that opening a slot can come to. -/
inductive Opens (content : Content) (slot : κ) (source : σ) :
    Outcome SessionError (Session σ κ) κ → Prop where
  | unread {error : SaveError} {after : κ} :
      SaveSlot.load slot = (.error error, after) →
      Opens content slot source (.refuse (.save error) after)
  | unfit {saved : SavedGame} {error : SaveError} {after : κ} :
      SaveSlot.load slot = (.ok (some saved), after) →
      Game.resume content saved source = .error error →
      Opens content slot source (.refuse (.save error) after)
  | resumed {saved : SavedGame} {game : Game σ} {after : κ} :
      SaveSlot.load slot = (.ok (some saved), after) →
      Game.resume content saved source = .ok game →
      Opens content slot source
        (.accept { game, slot := after, autosave := Autosave.standard }
          [.resumed game.deck.remaining game.status] after)
  | unsaved {error : SaveError} {loaded after : κ} :
      SaveSlot.load slot = (.ok none, loaded) →
      SaveSlot.save (Game.start content source).saved loaded =
        (.error error, after) →
      Opens content slot source (.refuse (.save error) after)
  | dealt {loaded after : κ} :
      SaveSlot.load slot = (.ok none, loaded) →
      SaveSlot.save (Game.start content source).saved loaded = (.ok (), after) →
      Opens content slot source
        (.accept
          { game := Game.start content source, slot := after
            autosave := Autosave.standard }
          [.dealt (Game.start content source).deck.remaining] after)

theorem opens_resumeOrStart (content : Content) (slot : κ) (source : σ) :
    Opens content slot source (resumeOrStart content slot source) := by
  unfold resumeOrStart
  cases loads : SaveSlot.load slot with
  | mk answer loaded =>
      rcases answer with error | _ | saved
      · exact .unread loads
      · cases saves : SaveSlot.save (Game.start content source).saved loaded with
        | mk answer after =>
            cases answer with
            | error error =>
                simp only [saves]
                exact .unsaved loads saves
            | ok done =>
                simp only [saves]
                exact .dealt loads saves
      · cases resumes : Game.resume content saved source with
        | error error =>
            simp only [resumes]
            exact .unfit loads resumes
        | ok game =>
            simp only [resumes]
            exact .resumed loads resumes

theorem resumeOrStart_of_unread {content : Content} {slot : κ} {source : σ}
    {error : SaveError} (unread : (SaveSlot.load slot).1 = .error error) :
    (resumeOrStart content slot source).answer = .error (.save error) := by
  unfold resumeOrStart
  cases loaded : SaveSlot.load slot with
  | mk answer after =>
      rw [loaded] at unread
      cases unread
      rfl

/-- An empty slot that takes no new game is not opened. -/
theorem resumeOrStart_of_unsaved {content : Content} {slot : κ} {source : σ}
    {error : SaveError} (empty : (SaveSlot.load slot).1 = .ok none)
    (refused : (SaveSlot.save (Game.start content source).saved
      (SaveSlot.load slot).2).1 = .error error) :
    resumeOrStart content slot source =
      .refuse (.save error) (SaveSlot.save (Game.start content source).saved
        (SaveSlot.load slot).2).2 := by
  have loads : SaveSlot.load slot = (.ok none, (SaveSlot.load slot).2) :=
    Prod.ext empty rfl
  have saves : SaveSlot.save (Game.start content source).saved
      (SaveSlot.load slot).2 =
        (.error error, (SaveSlot.save (Game.start content source).saved
          (SaveSlot.load slot).2).2) :=
    Prod.ext refused rfl
  unfold resumeOrStart
  rw [loads]
  dsimp only
  rw [saves]

/-- A slot from which a game is loaded that can be gone on with is opened with
it. -/
theorem resumeOrStart_of_load {content : Content} {slot : κ} {source : σ}
    {saved : SavedGame} {game : Game σ}
    (loads : (SaveSlot.load slot).1 = .ok (some saved))
    (resumes : Game.resume content saved source = .ok game) :
    ∃ session, (resumeOrStart content slot source).answer = .ok session ∧
      session.game = game := by
  unfold resumeOrStart
  cases loaded : SaveSlot.load slot with
  | mk answer after =>
      rw [loaded] at loads
      cases loads
      simp only [resumes]
      exact ⟨_, rfl, rfl⟩

end Opening

variable {σ κ : Type} [SaveSlot κ] [LawfulSlot κ]

/-- The slot holds the game as it stands. -/
def Kept (session : Session σ κ) : Prop :=
  LawfulSlot.held? session.slot = some session.game.saved.toText

/-- What writing the game can come to. -/
theorem persist_cases (session : Session σ κ) :
    (session.persist.1 = .ok () ∧ session.persist.2.Kept ∧
        session.persist.2.autosave.isDirty = false ∧
        session.persist.2.game = session.game) ∨
      ∃ error, session.persist.1 = .error error ∧
        session.persist.2.autosave = session.autosave ∧
        session.persist.2.game = session.game := by
  have held := LawfulSlot.held_save session.game.saved session.slot
  unfold persist
  cases call : SaveSlot.save session.game.saved session.slot with
  | mk answer slot =>
      rw [call] at held
      cases answer with
      | ok done => exact .inl ⟨rfl, held, rfl, rfl⟩
      | error error => exact .inr ⟨error, rfl, rfl, rfl⟩

end Session

end SoloJournal
