import SoloJournal.Proofs.Flaws
import SoloJournal.Proofs.Reload

/-!
# What a saved game is renewed to

A saved game is refused for having been made for other content, and only then
for a flaw.  The game that any other saved game is gone on with as has a save of
its own: the same save, brought up to date.  Bringing it up to date once is
enough.
-/

namespace SoloJournal

namespace SavedGame

/-- The saved game names other content than the one at hand. -/
def Foreign (content : Content) (saved : SavedGame) : Prop :=
  saved.signature ≠ "" ∧
    saved.signature ≠ Signature.ofContent content.rules content.catalog

/-- The saved game, brought up to date: of the current version, without debt,
signed for the content, and with the status that its counters and cards call for
unless it has come to an end already. -/
def renewed (content : Content) (saved : SavedGame) : SavedGame :=
  let ledger : Ledger :=
    { tokens := max saved.tokens 0, stability := saved.stability }
  { saved with
    version := 1
    tokens := max saved.tokens 0
    status :=
      if saved.status = .active then
        Status.judge ledger (saved.deck.length + saved.pending.toList.length)
          (!content.rules.reshuffle)
      else saved.status
    signature := Signature.ofContent content.rules content.catalog }

theorem exists_flawed_iff {saved : SavedGame} :
    (∃ flaw, saved.Flawed flaw) ↔
      ¬ (saved.pending.toList ++ saved.deck).Nodup ∨
        ∃ turn, saved.turn = some turn ∧ turn.isConsistent = false := by
  simp only [← flaw?_eq_some_iff, ← Option.isSome_iff_exists,
    Option.isSome_iff_ne_none, ne_eq, flaw?_eq_none_iff, unresolved, not_and_or,
    not_forall, exists_prop, Bool.not_eq_true]

end SavedGame

namespace Game

variable {σ : Type} {content : Content} {saved : SavedGame} {source : σ}

theorem resume_eq_error_iff {error : SaveError} :
    resume content saved source = .error error ↔
      saved.Foreign content ∧
          error = .otherContent saved.signature
            (Signature.ofContent content.rules content.catalog) ∨
        ¬ saved.Foreign content ∧ saved.Flawed error := by
  rw [← SavedGame.flaw?_eq_some_iff]
  unfold resume SavedGame.Foreign
  rw [← content.signature_eq]
  split
  case isTrue foreign => simp [foreign, eq_comm]
  case isFalse native =>
    simp only [native, false_and, not_false_eq_true, true_and, false_or]
    cases flaw : saved.flaw? with
    | some flaw => simp
    | none => simp

/-- Without a reason to refuse it a saved game is gone on with. -/
theorem exists_resume (native : ¬ saved.Foreign content)
    (flawless : ∀ flaw, ¬ saved.Flawed flaw) :
    ∃ game, resume content saved source = .ok game := by
  cases resumes : resume content saved source with
  | ok game => exact ⟨game, rfl⟩
  | error error =>
      rcases resume_eq_error_iff.mp resumes with ⟨foreign, -⟩ | ⟨-, flawed⟩
      · exact absurd foreign native
      · exact absurd flawed (flawless error)

/-- The save of a game that is gone on with. -/
theorem saved_resume {game : Game σ}
    (resumed : resume content saved source = .ok game) :
    game.saved = saved.renewed content := by
  obtain ⟨-, -, rfl⟩ := resume_eq_ok_iff.mp resumed
  have unresolved : (reopened content saved source).unresolved =
      saved.deck.length + saved.pending.toList.length := by
    simp [Game.unresolved, reopened, Deck.remaining, Deck.ofOrder]
  have status : (reopened content saved source).resumedStatus =
      (saved.renewed content).status := by
    unfold resumedStatus judged SavedGame.renewed
    rw [unresolved]
    cases standing : saved.status <;>
      simp [reopened, standing, Status.isTerminal, Ledger.opening]
  have order : (Deck.ofOrder saved.deck).order = saved.deck :=
    Deck.order_ofOrder saved.deck
  simp only [Game.saved, status]
  simp only [reopened, Ledger.opening, order, content.signature_eq]
  rfl

/-- What becomes of a saved game.  It is refused just when it was made for other
content, which is then named, or else has a flaw, which is then named: a card
that stands twice in the hand and the deck, or a turn that no die begins.
Otherwise it is gone on with, as a game whose save is the saved game brought up
to date; and that save is gone on with as the very same game. -/
theorem resume_exactly (content : Content) (saved : SavedGame) (source : σ) :
    (∀ error, resume content saved source = .error error ↔
        saved.Foreign content ∧
            error = .otherContent saved.signature
              (Signature.ofContent content.rules content.catalog) ∨
          ¬ saved.Foreign content ∧ saved.Flawed error) ∧
      (∀ flaw, saved.flaw? = some flaw ↔ saved.Flawed flaw) ∧
      ((∃ flaw, saved.Flawed flaw) ↔
        ¬ (saved.pending.toList ++ saved.deck).Nodup ∨
          ∃ turn, saved.turn = some turn ∧ turn.isConsistent = false) ∧
      (¬ saved.Foreign content → (∀ flaw, ¬ saved.Flawed flaw) →
        ∃ game, resume content saved source = .ok game ∧
          game.content = content ∧ game.source = source ∧
          game.saved = saved.renewed content ∧
          ∀ anew : σ,
            resume content game.saved anew = .ok { game with source := anew }) := by
  refine ⟨fun _ => resume_eq_error_iff, fun _ => SavedGame.flaw?_eq_some_iff,
    SavedGame.exists_flawed_iff, ?_⟩
  intro native flawless
  obtain ⟨game, resumed⟩ : ∃ game, resume content saved source = .ok game :=
    exists_resume native flawless
  refine ⟨game, resumed, content_resume resumed, ?_, saved_resume resumed, ?_⟩
  · obtain ⟨-, -, rfl⟩ := resume_eq_ok_iff.mp resumed
    rfl
  · intro anew
    exact (resumable_resume resumed).resume_saved anew

/-- A save that nobody has signed, and that is in debt, is gone on with as a game
that is lost; saving that game changes nothing more. -/
theorem resume_exactly_in_debt :
    let indebted := { SavedGame.secondTurn with tokens := -3 }
    ∃ game, resume Content.practice indebted Loaded.threes = .ok game ∧
      game.saved.tokens = 0 ∧ game.saved.status = .tokensSpent ∧
      resume Content.practice game.saved Loaded.threes = .ok game := by
  intro indebted
  obtain ⟨-, -, flawed, goesOn⟩ :=
    resume_exactly Content.practice indebted Loaded.threes
  have native : ¬ indebted.Foreign Content.practice := fun foreign =>
    foreign.1 rfl
  have flawless : ∀ flaw, ¬ indebted.Flawed flaw := by
    intro flaw isFlawed
    rcases flawed.mp ⟨flaw, isFlawed⟩ with repeated | ⟨turn, ⟨⟩, odd⟩
    · exact repeated (by decide)
    · exact absurd odd (by decide)
  obtain ⟨game, resumed, -, source, renewed, again⟩ := goesOn native flawless
  have spent : (indebted.renewed Content.practice).tokens = 0 ∧
      (indebted.renewed Content.practice).status = .tokensSpent :=
    ⟨rfl, rfl⟩
  rw [← renewed] at spent
  have same : { game with source := Loaded.threes } = game := by
    rw [← source]
  exact ⟨game, resumed, spent.1, spent.2, same ▸ again Loaded.threes⟩

end Game

end SoloJournal
