import SoloJournal.Proofs.Moves

/-!
# Runs of moves

A run is a list of moves, each performed on the game that the one before it
left, whether it was accepted or refused.  What every move keeps, every run
keeps.
-/

namespace SoloJournal.Game

variable {σ : Type} [RandomSource σ]

/-- The game after a list of moves. -/
def afterMoves (game : Game σ) (moves : List Move) : Game σ :=
  (game.play moves).2

/-- What each move of a list comes to, in turn. -/
def outcomes (game : Game σ) :
    List Move → List (Outcome GameError MoveAnswer (Game σ))
  | [] => []
  | move :: moves =>
      game.perform move :: outcomes (game.perform move).after moves

/-- Every move of a list is made on a game that allows it. -/
def Along (Allows : Game σ → Move → Prop) (game : Game σ) : List Move → Prop
  | [] => True
  | move :: moves =>
      Allows game move ∧ Along Allows (game.perform move).after moves

@[simp] theorem afterMoves_nil (game : Game σ) : game.afterMoves [] = game :=
  rfl

@[simp] theorem afterMoves_cons (game : Game σ) (move : Move)
    (moves : List Move) :
    game.afterMoves (move :: moves) =
      (game.perform move).after.afterMoves moves :=
  rfl

theorem afterMoves_append (game : Game σ) (front back : List Move) :
    game.afterMoves (front ++ back) =
      (game.afterMoves front).afterMoves back := by
  induction front generalizing game with
  | nil => rfl
  | cons move front induction => exact induction _

theorem outcomes_append (game : Game σ) (front back : List Move) :
    game.outcomes (front ++ back) =
      game.outcomes front ++ (game.afterMoves front).outcomes back := by
  induction front generalizing game with
  | nil => rfl
  | cons move front induction => exact congrArg (_ :: ·) (induction _)

/-- What every allowed move keeps, a run of allowed moves keeps. -/
theorem afterMoves_of_along {Allows : Game σ → Move → Prop}
    {Holds : Game σ → Prop}
    (kept : ∀ game move, Holds game → Allows game move →
      Holds (game.perform move).after)
    {game : Game σ} {moves : List Move}
    (holds : Holds game) (allowed : game.Along Allows moves) :
    Holds (game.afterMoves moves) := by
  induction moves generalizing game with
  | nil => exact holds
  | cons move moves induction =>
      exact induction (kept game move holds allowed.1) allowed.2

theorem along_true (game : Game σ) (moves : List Move) :
    game.Along (fun _ _ => True) moves := by
  induction moves generalizing game with
  | nil => trivial
  | cons move moves induction => exact ⟨trivial, induction _⟩

/-- What every move keeps, every run keeps. -/
theorem afterMoves_of_kept {Holds : Game σ → Prop}
    (kept : ∀ game move, Holds game → Holds (game.perform move).after)
    {game : Game σ} (holds : Holds game) (moves : List Move) :
    Holds (game.afterMoves moves) :=
  afterMoves_of_along (fun game move holds _ => kept game move holds) holds
    (along_true game moves)

end SoloJournal.Game
