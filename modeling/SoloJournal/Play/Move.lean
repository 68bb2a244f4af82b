import SoloJournal.Play.Game

/-!
# Moves

The actions on a game as values, so that a run of a game is a list of moves.
-/

namespace SoloJournal

inductive Move where
  | roll
  | draw
  | resolve
  | adjustTokens (delta : Int64)
  | write (text : String)
  | restart
  deriving DecidableEq

/-- What an accepted move answers. -/
inductive MoveAnswer where
  | rolled (turn : TurnDie)
  | drawn (card : Card)
  | resolved (applied : Applied)
  | adjusted (change : Change Int64)
  | done
  deriving DecidableEq

namespace Outcome

/-- Answers with a function of the answer. -/
def map {ε α β τ : Type} (convert : α → β) (outcome : Outcome ε α τ) : Outcome ε β τ :=
  { outcome with answer := outcome.answer.map convert }

end Outcome

namespace Game

variable {σ : Type} [RandomSource σ]

def perform (game : Game σ) : Move → Outcome GameError MoveAnswer (Game σ)
  | .roll => game.roll.map .rolled
  | .draw => game.draw.map .drawn
  | .resolve => game.resolve.map .resolved
  | .adjustTokens delta => (game.adjustTokens delta).map .adjusted
  | .write text => .accept .done [] (game.write text)
  | .restart => .accept .done game.restart.1 game.restart.2

/-- The game after a list of moves, with all events in their order. -/
def play (game : Game σ) : List Move → List Event × Game σ
  | [] => ([], game)
  | move :: moves =>
    let outcome := game.perform move
    let (events, game) := outcome.after.play moves
    (outcome.events ++ events, game)

end Game

end SoloJournal
