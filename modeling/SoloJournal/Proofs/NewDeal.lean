import SoloJournal.Proofs.Opening

/-!
# A new deal is a new game

A game that is dealt anew is overwritten field by field, in whatever state it
was.  Nothing of it is left but its rules, its catalog and what its source of
chance has left, so that it cannot be told from a game that is made of these.
The same goes for a session and its slot.
-/

namespace SoloJournal

/-- A signature adds nothing to the rules and the catalog that it signs. -/
theorem Content.sign_rules_catalog (content : Content) :
    Content.sign content.rules content.catalog = content := by
  obtain ⟨rules, catalog, signature, rfl⟩ := content
  rfl

namespace Game

variable {σ : Type} [RandomSource σ]

/-- The game that the rules, the catalog and the source of chance of a game
make, with nothing else taken over. -/
def madeAnew (game : Game σ) : Game σ :=
  start (Content.sign game.content.rules game.content.catalog) game.source

/-- Every field that a new deal does not overwrite is one that a new game is
made of. -/
theorem restart_eq (game : Game σ) :
    game.restart = ([.dealt 52], game.madeAnew) := by
  have overwritten : game.restart =
      ([.dealt (Deck.dealt game.source).1.remaining],
        start game.content game.source) :=
    rfl
  rw [overwritten, Deck.remaining_dealt, madeAnew, Content.sign_rules_catalog]

theorem outcomes_restart_cons (game : Game σ) (moves : List Move) :
    game.outcomes (.restart :: moves) =
      .accept .done [.dealt 52] game.madeAnew :: game.madeAnew.outcomes moves := by
  have dealt : game.perform .restart =
      .accept .done [.dealt 52] game.madeAnew := by
    rw [perform, restart_eq]
  rw [outcomes, dealt]
  rfl

/-- A new game is taken back from its save, playable or not. -/
theorem ofText_saved_start (content : Content) (source : σ) :
    SavedGame.ofText (start content source).saved.toText =
      .ok (start content source).saved := by
  have noTurn : TurnConsistent (start content source).turn := by
    rintro turn ⟨⟩
  exact SavedGame.ofText_toText_of_flawless rfl
    (flaw?_saved_eq_none (Life.conserves_start content source).nodup_hand
      noTurn)

end Game

/-! ## Slots that give back what they took -/

/-- A slot from which a game that it has just taken can be read. -/
class RecallingSlot (κ : Type) [SaveSlot κ] : Prop where
  load_saved : ∀ (saved : SavedGame) (slot : κ),
    (SaveSlot.save saved slot).1 = .ok () →
      (SaveSlot.load (SaveSlot.save saved slot).2).1 =
        readHeld (some saved.toText)

instance {κ : Type} [SaveSlot κ] [LawfulSlot κ] [UnfailingSlot κ] :
    RecallingSlot κ where
  load_saved saved slot granted := by
    rw [UnfailingSlot.load_ok, LawfulSlot.held_save, granted]
    rfl

instance : RecallingSlot FileSlot where
  load_saved saved slot granted := by
    have reliable := slot.reliable
    exact FileSlot.load_of_holds (reliable.holds_save saved granted)

namespace Request

variable {κ : Type} [SaveSlot κ]

/-- A slot grants all of some requests, made one after the other. -/
def Grants (slot : κ) (requests : List Request) : Prop :=
  (carryOut slot requests).1 = requests

theorem grants_cons_iff {slot : κ} {request : Request}
    {requests : List Request} :
    Grants slot (request :: requests) ↔
      (request.call slot).1 = .ok () ∧
        Grants (request.call slot).2 requests := by
  unfold Grants
  rw [carryOut]
  cases called : request.call slot with
  | mk answer after =>
      cases answer with
      | error error => simp
      | ok done => simp

end Request

namespace Session

open Request (Grants grants_cons_iff)

variable {σ κ : Type} [RandomSource σ] [SaveSlot κ] [RecallingSlot κ]

/-- A game that has just been dealt is loaded from the slot that took it. -/
theorem load_saved_start {content : Content} {source : σ} {slot : κ}
    (granted : (SaveSlot.save (Game.start content source).saved slot).1 =
      .ok ()) :
    (SaveSlot.load
        (SaveSlot.save (Game.start content source).saved slot).2).1 =
      .ok (some (Game.start content source).saved) := by
  rw [RecallingSlot.load_saved _ slot granted, readHeld,
    Game.ofText_saved_start]
  rfl

theorem restart_of_grants {session : Session σ κ}
    (granted : Grants session.slot
      [.clear, .save session.game.madeAnew.saved]) :
    ∃ slot,
      session.restart =
          .accept () [.dealt 52]
            { game := session.game.madeAnew, slot
              autosave := session.autosave.markSaved } ∧
        (SaveSlot.load slot).1 = .ok (some session.game.madeAnew.saved) := by
  obtain ⟨clears, saves⟩ := grants_cons_iff.mp granted
  obtain ⟨saves, -⟩ := grants_cons_iff.mp saves
  have held := load_saved_start saves
  unfold restart
  rw [Game.restart_eq]
  cases cleared : SaveSlot.clear session.slot with
  | mk answer emptied =>
      simp only [Request.call, cleared] at clears saves held
      subst clears
      unfold persisting persist
      simp only
      cases saved : SaveSlot.save session.game.madeAnew.saved emptied with
      | mk answer slot =>
          simp only [saved] at saves
          subst saves
          refine ⟨slot, rfl, ?_⟩
          rwa [← Game.madeAnew, saved] at held

theorem resumeOrStart_of_grants {content : Content} {slot : κ} {source : σ}
    (empty : (SaveSlot.load slot).1 = .ok none)
    (granted : Grants (SaveSlot.load slot).2
      [.save (Game.start content source).saved]) :
    ∃ session : Session σ κ,
      resumeOrStart content slot source =
          .accept session [.dealt 52] session.slot ∧
        session.game = Game.start content source ∧
        (SaveSlot.load session.slot).1 =
          .ok (some (Game.start content source).saved) := by
  obtain ⟨saves, -⟩ := grants_cons_iff.mp granted
  have held := load_saved_start saves
  unfold resumeOrStart
  cases loaded : SaveSlot.load slot with
  | mk answer after =>
      simp only [Request.call, loaded] at empty saves held
      subst empty
      simp only
      cases saved : SaveSlot.save (Game.start content source).saved after with
      | mk answer taken =>
          simp only [saved] at saves held
          subst saves
          refine ⟨⟨Game.start content source, taken, .standard⟩, ?_, rfl, held⟩
          rw [← Deck.remaining_dealt source]
          rfl

/-- A new deal is a new game.  Whatever a game has come to, dealing anew leaves
it as the game that its rules, its catalog and its source of chance make, and
all that follows is what follows a new game.  In a session whose slot is emptied
and takes the new game, the slot then holds what an empty slot holds after it
has been opened with the same rules, catalog and source of chance. -/
theorem dealt_afresh :
    (∀ (game : Game σ) (before after : List Move),
      let reached := game.afterMoves before
      let fresh := Game.start
        (Content.sign reached.content.rules reached.content.catalog)
        reached.source
      reached.restart = ([.dealt 52], fresh) ∧
        game.outcomes (before ++ .restart :: after) =
          game.outcomes before
            ++ .accept .done [.dealt 52] fresh :: fresh.outcomes after) ∧
      ∀ (κ : Type) [SaveSlot κ] [RecallingSlot κ] (session : Session σ κ)
        (δ : Type) [SaveSlot δ] [RecallingSlot δ] (empty : δ),
        let content := Content.sign session.game.content.rules
          session.game.content.catalog
        let fresh := Game.start content session.game.source
        Grants session.slot [.clear, .save fresh.saved] →
        (SaveSlot.load empty).1 = .ok none →
        Grants (SaveSlot.load empty).2 [.save fresh.saved] →
          ∃ dealt : Session σ κ, ∃ opened : Session σ δ,
            session.restart = .accept () [.dealt 52] dealt ∧
              resumeOrStart content empty session.game.source =
                .accept opened [.dealt 52] opened.slot ∧
              dealt.game = fresh ∧ opened.game = fresh ∧
              (SaveSlot.load dealt.slot).1 = .ok (some fresh.saved) ∧
              (SaveSlot.load opened.slot).1 = .ok (some fresh.saved) := by
  constructor
  · intro game before after reached fresh
    refine ⟨reached.restart_eq, ?_⟩
    rw [Game.outcomes_append]
    exact congrArg _ (reached.outcomes_restart_cons after)
  · intro κ _ _ session δ _ _ empty content fresh granted nothing taken
    obtain ⟨slot, restarts, held⟩ := restart_of_grants granted
    obtain ⟨opened, opens, game, loads⟩ :=
      resumeOrStart_of_grants nothing taken
    exact ⟨_, opened, restarts, opens, rfl, game, held, loads⟩

/-- A game that is lost in the middle of a turn, with a card in hand and a note
in its journal, is dealt anew; its slot in memory then holds what a file holds
that has just been opened. -/
theorem dealt_afresh_lost :
    let lost := (Game.start Content.practice Loaded.threes).afterMoves
      [.roll, .draw, .write "rain", .adjustTokens (-9)]
    let session : Session Loaded MemorySlot :=
      { game := lost, slot := MemorySlot.empty.save lost.saved
        autosave := .standard }
    let file : FileSlot := { path := .ofText "save.json", tree := { nodes := [] } }
    let fresh := Game.start
      (Content.sign session.game.content.rules session.game.content.catalog)
      session.game.source
    ((session.game.status, session.game.pending, session.game.turn) =
          (.tokensSpent, some ⟨.spades, .ace⟩, some ⟨1, 3, 3⟩) ∧
        session.game.restart = ([.dealt 52], fresh)) ∧
      Grants session.slot [.clear, .save fresh.saved] ∧
      (SaveSlot.load file).1 = .ok none ∧
      Grants (SaveSlot.load file).2 [.save fresh.saved] ∧
      ∃ dealt : Session Loaded MemorySlot, ∃ opened : Session Loaded FileSlot,
        session.restart = .accept () [.dealt 52] dealt ∧
          (SaveSlot.load dealt.slot).1 = (SaveSlot.load opened.slot).1 := by
  intro lost session file fresh
  obtain ⟨games, sessions⟩ := dealt_afresh (σ := Loaded)
  obtain ⟨renewed, -⟩ := games session.game [] []
  simp only [Game.afterMoves_nil] at renewed
  have emptied : Grants session.slot [.clear, .save fresh.saved] := rfl
  have nothing : (SaveSlot.load file).1 = .ok none := by decide +kernel
  have taken : Grants (SaveSlot.load file).2 [.save fresh.saved] := by
    have saves : (SaveSlot.save fresh.saved (SaveSlot.load file).2).1 =
        .ok () := by
      decide +kernel
    exact grants_cons_iff.mpr ⟨saves, rfl⟩
  obtain ⟨dealt, opened, restarts, -, -, -, inMemory, inFile⟩ :=
    sessions MemorySlot session FileSlot file emptied nothing taken
  exact ⟨⟨by decide +kernel, renewed⟩, emptied, nothing, taken, dealt, opened,
    restarts, inMemory.trans inFile.symm⟩

end Session

end SoloJournal
