/-!
# Sources of chance

Every random decision of a game is asked of a source: a whole number below a
bound, for shuffling, or the face of a six-sided die.  A source is a state
that each question moves on, so a game over a source is an ordinary function
of its state.
-/

namespace SoloJournal

universe u

/-- A state that answers random questions, each with an answer and the state
after it. -/
class RandomSource (source : Type u) where
  /-- A whole number below a positive bound. -/
  below : Nat → source → Nat × source
  /-- The face of a die. -/
  rollDie : source → UInt8 × source

/-- A source that keeps to what is asked: numbers stay below their bound and
faces are those of a six-sided die. -/
class LawfulSource (source : Type u) [RandomSource source] : Prop where
  below_lt : ∀ (bound : Nat) (state : source), 0 < bound →
    (RandomSource.below bound state).1 < bound
  one_le_face : ∀ state : source, 1 ≤ (RandomSource.rollDie state).1
  face_le_six : ∀ state : source, (RandomSource.rollDie state).1 ≤ 6

namespace RandomSource

variable {source : Type u} [RandomSource source]

/-- Rolls `count` dice onto the faces already rolled, which are held latest
first. -/
def rollOnto : Nat → List UInt8 → source → List UInt8 × source
  | 0, rolled, state => (rolled.reverse, state)
  | count + 1, rolled, state =>
    let (face, state) := rollDie state
    rollOnto count (face :: rolled) state

/-- The next `count` faces, in the order rolled. -/
def rollDice (count : Nat) (state : source) : List UInt8 × source :=
  rollOnto count [] state

end RandomSource

end SoloJournal
