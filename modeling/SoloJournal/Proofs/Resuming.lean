import SoloJournal.Play.Game

/-!
# Going on with a saved game

`resume_eq_ok_iff` says which saved games are gone on with and what game that
gives; everything later about `resume` follows from it.
-/

namespace SoloJournal

namespace Status

theorem isTerminal_eq_false_iff {status : Status} :
    status.isTerminal = false ↔ status = .active := by
  cases status <;> decide

end Status

namespace Game

variable {σ : Type}

/-- A saved game with content and a source of chance, its status as saved. -/
def reopened (content : Content) (saved : SavedGame) (source : σ) : Game σ :=
  { content, source
    deck := Deck.ofOrder saved.deck
    ledger := Ledger.opening saved.tokens saved.stability
    history := saved.history
    pending := saved.pending
    status := saved.status
    journal := saved.journal
    turn := saved.turn }

/-- The status that a game goes on with: a terminal one is kept, an active one
is judged anew. -/
def resumedStatus (game : Game σ) : Status :=
  if game.status.isTerminal then game.status else game.judged

/-- A saved game is gone on with just when it was made for the content, as far
as its signature tells, and has no flaw. -/
theorem resume_eq_ok_iff {content : Content} {saved : SavedGame} {source : σ}
    {game : Game σ} :
    resume content saved source = .ok game ↔
      (saved.signature = "" ∨ saved.signature = content.signature) ∧
        saved.flaw? = none ∧
        game = { reopened content saved source with
          status := (reopened content saved source).resumedStatus } := by
  by_cases other : saved.signature ≠ "" ∧ saved.signature ≠ content.signature
  · have notSigned :
        ¬ (saved.signature = "" ∨ saved.signature = content.signature) := by
      rintro (unsigned | same)
      · exact other.1 unsigned
      · exact other.2 same
    simp [resume, other]
  have signed : saved.signature = "" ∨ saved.signature = content.signature := by
    by_cases unsigned : saved.signature = ""
    · exact .inl unsigned
    · exact .inr (Decidable.not_not.mp fun differs => other ⟨unsigned, differs⟩)
  unfold resume
  rw [if_neg other]
  cases flaw : saved.flaw? with
  | some error => simp
  | none =>
      have kept : (if (reopened content saved source).status.isTerminal then
            reopened content saved source
          else
            { reopened content saved source with
              status := (reopened content saved source).judged }) =
          { reopened content saved source with
            status := (reopened content saved source).resumedStatus } := by
        unfold resumedStatus
        split <;> rfl
      constructor
      · intro same
        refine ⟨signed, rfl, ?_⟩
        rw [← kept]
        exact (Except.ok.inj same).symm
      · rintro ⟨-, -, same⟩
        rw [same, ← kept]
        rfl

theorem content_resume {content : Content} {saved : SavedGame} {source : σ}
    {game : Game σ} (resumed : resume content saved source = .ok game) :
    game.content = content := by
  obtain ⟨-, -, rfl⟩ := resume_eq_ok_iff.mp resumed
  rfl

theorem journal_resume {content : Content} {saved : SavedGame} {source : σ}
    {game : Game σ} (resumed : resume content saved source = .ok game) :
    game.journal = saved.journal := by
  obtain ⟨-, -, rfl⟩ := resume_eq_ok_iff.mp resumed
  rfl

/-- A game that is gone on with and still active is judged to be active. -/
theorem judged_resume {content : Content} {saved : SavedGame} {source : σ}
    {game : Game σ} (resumed : resume content saved source = .ok game)
    (active : game.status = .active) : game.judged = .active := by
  obtain ⟨-, -, rfl⟩ := resume_eq_ok_iff.mp resumed
  simp only [resumedStatus] at active
  split at active
  case isTrue ended =>
    rw [active] at ended
    exact absurd ended (by decide)
  case isFalse => exact active

end Game

end SoloJournal
