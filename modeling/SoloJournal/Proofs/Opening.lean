import SoloJournal.Proofs.FileSlots

/-!
# Opening a slot

Opening a slot makes at most two calls: it loads, and only where nothing is kept
it deals a new game and saves it.  So a slot with something in it is never
touched, and an empty one only by the save of a new game; and what has been
opened is opened again as the same game.
-/

namespace SoloJournal

namespace Game

variable {σ : Type}

/-- A save is gone on with in the same way whatever source of chance is at
hand. -/
theorem resume_with_source {content : Content} {saved : SavedGame} {source : σ}
    {game : Game σ} (resumed : resume content saved source = .ok game)
    (anew : σ) :
    resume content saved anew = .ok { game with source := anew } := by
  obtain ⟨signed, flawless, rfl⟩ := resume_eq_ok_iff.mp resumed
  exact resume_eq_ok_iff.mpr ⟨signed, flawless, rfl⟩

end Game

namespace Session

section Spares

variable {σ κ : Type} [SaveSlot κ] [RandomSource σ]
  {holds : κ → Option String → Prop} {untouched spared readable : κ → Prop}
  {content : Content} {slot : κ} {source : σ}

/-- What opening a slot leaves behind.  Here `holds` says what a slot holds,
`untouched` that the slot is as it was before, `spared` that a save which failed
has done no harm to it, and `readable` that the slot can still be read. -/
structure Spares (holds : κ → Option String → Prop)
    (untouched spared readable : κ → Prop) (content : Content) (slot : κ)
    (source : σ) (outcome : Outcome SessionError (Session σ κ) κ) : Prop where
  refused : ∀ error, outcome.answer = .error error →
    outcome.events = [] ∧
      (untouched outcome.after ∨ holds slot none ∧ spared outcome.after)
  opened : ∀ session, outcome.answer = .ok session →
    outcome.after = session.slot ∧
      ((∃ text saved, holds slot (some text) ∧
          SavedGame.ofText text = .ok saved ∧
          Game.resume content saved source = .ok session.game ∧
          outcome.events =
            [.resumed session.game.deck.remaining session.game.status] ∧
          untouched session.slot) ∨
        holds slot none ∧ session.game = Game.start content source ∧
          outcome.events = [.dealt 52] ∧
          holds session.slot (some session.game.saved.toText))
  reopened : content.Playable → ∀ session, outcome.answer = .ok session →
    readable session.slot → ∀ anew : σ, ∃ again,
      (resumeOrStart content session.slot anew).answer = .ok again ∧
        again.game = { session.game with source := anew }

/-- What opening a slot relies on. -/
structure Reliable (holds : κ → Option String → Prop)
    (untouched spared readable : κ → Prop) (slot : κ) : Prop where
  read : ∀ found, (SaveSlot.load slot).1 = .ok found →
    ∃ held, holds slot held ∧ readHeld held = .ok found
  load_untouched : untouched (SaveSlot.load slot).2
  holds_load : ∀ held, holds slot held → holds (SaveSlot.load slot).2 held
  save_spares : ∀ saved error,
    (SaveSlot.save saved (SaveSlot.load slot).2).1 = .error error →
      spared (SaveSlot.save saved (SaveSlot.load slot).2).2
  holds_save : ∀ saved,
    (SaveSlot.save saved (SaveSlot.load slot).2).1 = .ok () →
      holds (SaveSlot.save saved (SaveSlot.load slot).2).2 (some saved.toText)
  read_again : ∀ after held, readable after → holds after held →
    (SaveSlot.load after).1 = readHeld held

/-- What a refusal has to show. -/
theorem spares_refuse {error : SessionError} {after : κ}
    (unharmed : untouched after ∨ holds slot none ∧ spared after) :
    Spares holds untouched spared readable content slot source
      (.refuse error after) where
  refused := fun _ _ => ⟨rfl, unharmed⟩
  opened := by rintro _ ⟨⟩
  reopened := by rintro _ _ ⟨⟩

theorem Reliable.spares
    (reliable : Reliable holds untouched spared readable slot)
    (content : Content) (source : σ) :
    Spares holds untouched spared readable content slot source
      (resumeOrStart content slot source) := by
  obtain ⟨read, loadUntouched, holdsLoad, saveSpares, holdsSave, readAgain⟩ :=
    reliable
  have possible := opens_resumeOrStart content slot source
  generalize resumeOrStart content slot source = outcome at possible
  cases possible with
  | unread loads =>
      rw [loads] at loadUntouched
      exact spares_refuse (.inl loadUntouched)
  | unfit loads resumes =>
      rw [loads] at loadUntouched
      exact spares_refuse (.inl loadUntouched)
  | @resumed saved game after loads resumes =>
      rw [loads] at read loadUntouched holdsLoad
      obtain ⟨held, holdsHeld, taken⟩ := read _ rfl
      obtain ⟨text, rfl, spelled⟩ := readHeld_eq_some_iff.mp taken
      exact {
        refused := by rintro _ ⟨⟩
        opened := by
          rintro _ ⟨⟩
          exact ⟨rfl, .inl ⟨text, saved, holdsHeld, spelled, resumes, rfl,
            loadUntouched⟩⟩
        reopened := by
          rintro - _ ⟨⟩ readable anew
          have loadsAgain := readAgain after _ readable (holdsLoad _ holdsHeld)
          rw [taken] at loadsAgain
          exact resumeOrStart_of_load loadsAgain
            (Game.resume_with_source resumes anew) }
  | unsaved loads saves =>
      rw [loads] at read saveSpares
      obtain ⟨held, holdsHeld, taken⟩ := read _ rfl
      rw [readHeld_eq_none_iff] at taken
      subst taken
      have spares := saveSpares _ _ (congrArg Prod.fst saves)
      rw [saves] at spares
      exact spares_refuse (.inr ⟨holdsHeld, spares⟩)
  | @dealt loaded after loads saves =>
      rw [loads] at read holdsSave
      obtain ⟨held, holdsHeld, taken⟩ := read _ rfl
      rw [readHeld_eq_none_iff] at taken
      subst taken
      have holdsSaved := holdsSave _ (congrArg Prod.fst saves)
      rw [saves] at holdsSaved
      exact {
        refused := by rintro _ ⟨⟩
        opened := by
          rintro _ ⟨⟩
          refine ⟨rfl, .inr ⟨holdsHeld, rfl, ?_, holdsSaved⟩⟩
          exact congrArg (fun count => [Event.dealt count])
            (Deck.remaining_dealt source)
        reopened := by
          rintro playable _ ⟨⟩ readable anew
          -- a playable new game comes back from its save as it was
          have lossless := Game.lossless_start playable source
          have loadsAgain := readAgain after _ readable holdsSaved
          rw [readHeld, Game.ofText_saved lossless] at loadsAgain
          exact resumeOrStart_of_load loadsAgain
            (Game.resume_saved lossless anew) }

end Spares

/-- A slot that only a call which succeeds changes can be relied on. -/
theorem reliable_of_lawful {κ : Type} [SaveSlot κ] [LawfulSlot κ] [QuietSlot κ]
    (slot : κ) :
    Reliable (fun after text => LawfulSlot.held? after = text)
      (fun after => LawfulSlot.held? after = LawfulSlot.held? slot)
      (fun after => LawfulSlot.held? after = LawfulSlot.held? slot)
      (fun after => ∀ reason, (SaveSlot.load after).1 ≠ .error (.io reason))
      slot where
  read := by
    intro found loads
    exact ⟨_, rfl, LawfulSlot.read_of_load (Prod.ext loads rfl)⟩
  load_untouched := QuietSlot.held_load slot
  holds_load := by
    rintro _ rfl
    exact QuietSlot.held_load slot
  save_spares := by
    intro saved error refused
    rw [LawfulSlot.held_save, refused]
    exact QuietSlot.held_load slot
  holds_save := by
    intro saved granted
    rw [LawfulSlot.held_save, granted]
    rfl
  read_again := by
    rintro after _ readable rfl
    rcases LawfulSlot.load_eq after with ⟨reason, unreadable⟩ | read
    · exact absurd unreadable (readable reason)
    · exact read

end Session

/-- A file slot can be relied on. -/
theorem FileSlot.reliable (slot : FileSlot) :
    Session.Reliable Holds (· = slot) (Spared slot) (fun _ => True) slot where
  read := by
    intro found loads
    change slot.loadUnder .never = .ok found at loads
    exact holds_of_loadUnder loads
  load_untouched := rfl
  holds_load := fun _ holds => holds
  save_spares := fun _ _ failed => spared_saveUnder failed
  holds_save := fun _ granted => (holds_saveUnder granted).1
  read_again := fun _ _ _ holds => load_of_holds holds

/-- So can one whose file steps may be refused. -/
theorem FaultyFile.reliable (file : FaultyFile) :
    Session.Reliable (fun after text => after.slot.Holds text)
      (fun after => after.slot = file.slot)
      (fun after => file.slot.Spared after.slot)
      (fun after => ∀ reason, (SaveSlot.load after).1 ≠ .error (.io reason))
      file where
  read := by
    intro found loads
    change file.slot.loadUnder _ = .ok found at loads
    exact FileSlot.holds_of_loadUnder loads
  load_untouched := rfl
  holds_load := fun _ holds => holds
  save_spares := fun _ _ failed => FileSlot.spared_saveUnder failed
  holds_save := fun _ granted => (FileSlot.holds_saveUnder granted).1
  read_again := by
    intro after held readable holds
    rcases FileSlot.loadUnder_of_holds holds with loads | ⟨reason, -, refused⟩
    · exact loads
    · exact absurd refused (readable reason)

namespace Session

/-- Opening does not damage what is saved.  An opening that fails tells of
nothing and leaves the slot as it was, or at most as a save that failed leaves
an empty slot.  One that goes on with the game in the slot leaves it as it was
and only tells of that.  Only an empty slot is given a new game, which it then
holds.  A slot that has been opened, with content that makes a playable game, is
opened again as the same game, as long as it can be read.  All this holds of a
slot that only a call which succeeds changes, where a save that fails leaves
everything as it was, and of a file, which such a save spares whatever is refused
in any call. -/
theorem opening_spares_saves {σ : Type} [RandomSource σ] (content : Content)
    (source : σ) :
    (∀ (κ : Type) [SaveSlot κ] [LawfulSlot κ] [QuietSlot κ] (slot : κ),
      Spares (fun (after : κ) text => LawfulSlot.held? after = text)
        (fun after : κ => LawfulSlot.held? after = LawfulSlot.held? slot)
        (fun after : κ => LawfulSlot.held? after = LawfulSlot.held? slot)
        (fun after : κ => ∀ reason,
          (SaveSlot.load after).1 ≠ .error (.io reason))
        content slot source (resumeOrStart content slot source)) ∧
      (∀ slot : FileSlot,
        Spares FileSlot.Holds (· = slot) slot.Spared (fun _ : FileSlot => True)
          content slot source (resumeOrStart content slot source)) ∧
      ∀ file : FaultyFile,
        Spares (fun (after : FaultyFile) text => after.slot.Holds text)
          (fun after : FaultyFile => after.slot = file.slot)
          (fun after : FaultyFile => file.slot.Spared after.slot)
          (fun after : FaultyFile => ∀ reason,
            (SaveSlot.load after).1 ≠ .error (.io reason))
          content file source (resumeOrStart content file source) := by
  refine ⟨?_, ?_, ?_⟩
  · intro κ _ _ _ slot
    exact (reliable_of_lawful slot).spares content source
  · intro slot
    exact slot.reliable.spares content source
  · intro file
    exact file.reliable.spares content source

open Terminal.Table (begun) in
/-- A file with a text that is no saved game is refused and left alone; a file
that cannot be moved into an empty slot leaves it empty; and an empty slot is
given a new game and is opened with it for the second time. -/
theorem opening_spares_saves_unreadable :
    let spoiled : FileSlot :=
      { path := .ofText "save.json"
        tree := { nodes := [(["save.json"], .file "old".toUTF8)] } }
    let outcome := resumeOrStart Content.practice spoiled Loaded.threes
    let denied := "Permission denied (os error 13)"
    let vacant : FaultyFile :=
      { slot := { path := .ofText "save.json", tree := { nodes := [] } }
        plan := fun _ => { Refusals.never with moving := some denied }
        calls := 0 }
    let failure := resumeOrStart Content.practice vacant Loaded.threes
    (outcome.answer = .error (.save .unreadable) ∧ outcome.events = [] ∧
        outcome.after = spoiled) ∧
      (failure.answer = .error (.save (.io denied)) ∧ failure.events = [] ∧
        failure.after.slot.load = vacant.slot.load) ∧
      ∃ session again : Session Loaded MemorySlot,
        (resumeOrStart Content.practice MemorySlot.empty Loaded.threes).answer =
            .ok session ∧
          (resumeOrStart Content.practice session.slot Loaded.threes).answer =
            .ok again ∧
          again.game = session.game := by
  intro spoiled outcome denied vacant failure
  obtain ⟨lawful, file, faulty⟩ :=
    opening_spares_saves Content.practice Loaded.threes
  have refused : outcome.answer = .error (.save .unreadable) := by
    have unread : (SaveSlot.load spoiled).1 = .error .unreadable := by
      decide +kernel
    exact resumeOrStart_of_unread unread
  have stands : spoiled.tree.exists? spoiled.path = true := by decide +kernel
  obtain ⟨nothing, untouched⟩ := (file spoiled).refused _ refused
  have alone : outcome.after = spoiled := by
    rcases untouched with same | ⟨empty, -⟩
    · exact same
    · cases stands.symm.trans empty
  have denies : failure.answer = .error (.save (.io denied)) := by
    have empty : (SaveSlot.load vacant).1 = .ok none := by decide +kernel
    have unmoved : (SaveSlot.save (Game.start Content.practice Loaded.threes).saved
        (SaveSlot.load vacant).2).1 = .error (.io denied) := by
      decide +kernel
    exact congrArg Outcome.answer (resumeOrStart_of_unsaved empty unmoved)
  obtain ⟨silent, unharmed⟩ := (faulty vacant).refused _ denies
  have stillEmpty : failure.after.slot.load = vacant.slot.load := by
    rcases unharmed with same | ⟨-, spared⟩
    · rw [same]
    · have rooted : vacant.slot.tree.Rooted :=
        FileTree.rooted_of_nodes (by decide)
      have straight : ".." ∉ vacant.slot.path.parts := by decide +kernel
      exact (spared.2 rooted (.inl straight)).2 .never
  have opens : (resumeOrStart Content.practice MemorySlot.empty
      Loaded.threes).answer = .ok (begun MemorySlot.empty Loaded.threes) := rfl
  have readable : ∀ reason, (SaveSlot.load
      (begun MemorySlot.empty Loaded.threes).slot).1 ≠ .error (.io reason) := by
    intro reason unreadable
    have read := Game.ofText_saved
      (Game.lossless_start Content.practice_playable Loaded.threes)
    have held : LawfulSlot.held? (begun MemorySlot.empty Loaded.threes).slot =
        some (Game.start Content.practice Loaded.threes).saved.toText :=
      LawfulSlot.held_save _ _
    rw [UnfailingSlot.load_ok, held, readHeld, read] at unreadable
    cases unreadable
  obtain ⟨again, opensAgain, same⟩ := (lawful MemorySlot MemorySlot.empty).reopened
    Content.practice_playable _ opens readable Loaded.threes
  exact ⟨⟨refused, nothing, alone⟩, ⟨denies, silent, stillEmpty⟩, _, again,
    opens, opensAgain, same⟩

/-- An opening can fail after it has made a directory that the path steps out of;
the slot was empty before, and is not afterwards. -/
theorem failed_opening_fills_a_slot :
    let slot : FileSlot :=
      { path := .ofText "x/../save.json"
        tree := { nodes := [(["save.json"], .file "kept".toUTF8),
          (["save.json.tmp"], .directory)] } }
    let outcome := resumeOrStart Content.practice slot Loaded.threes
    slot.path.fileName? = some "save.json" ∧ slot.tree.Rooted ∧
      slot.load = .ok none ∧
      outcome.answer = .error (.save (FileSlot.fault .isDirectory)) ∧
      outcome.after.load = .error .unreadable := by
  intro slot outcome
  have empty : (SaveSlot.load slot).1 = .ok none := by decide +kernel
  have full : (SaveSlot.save (Game.start Content.practice Loaded.threes).saved
      (SaveSlot.load slot).2).1 = .error (FileSlot.fault .isDirectory) := by
    decide +kernel
  have refused : outcome = _ := resumeOrStart_of_unsaved empty full
  refine ⟨by decide +kernel, FileTree.rooted_of_nodes (by decide), empty,
    congrArg Outcome.answer refused, ?_⟩
  rw [refused]
  decide +kernel

end Session

end SoloJournal
