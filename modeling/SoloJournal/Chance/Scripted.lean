import SoloJournal.Chance.Seeded

/-!
# Scripted dice

A list of faces is played back one by one; after its end, and for every
question that is not about a die, a seeded source answers.
-/

namespace SoloJournal

/-- Faces still to be played back, and the source that answers the rest. -/
structure Scripted where
  faces : List UInt8
  fallback : Seeded

namespace Scripted

def ofFaces (faces : List UInt8) : Scripted :=
  { faces, fallback := Seeded.ofSeed 0 }

/-- Adds faces after those still to be played back. -/
def append (state : Scripted) (faces : List UInt8) : Scripted :=
  { state with faces := state.faces ++ faces }

/-- The nearest face of a six-sided die. -/
def clamp (face : UInt8) : UInt8 :=
  if face < 1 then 1 else if 6 < face then 6 else face

def below (bound : Nat) (state : Scripted) : Nat × Scripted :=
  let (answer, fallback) := state.fallback.below bound
  (answer, { state with fallback })

def rollDie (state : Scripted) : UInt8 × Scripted :=
  match state.faces with
  | face :: faces => (clamp face, { state with faces })
  | [] =>
    let (face, fallback) := state.fallback.rollDie
    (face, { state with fallback })

instance : RandomSource Scripted where
  below := below
  rollDie := rollDie

theorem one_le_clamp (face : UInt8) : 1 ≤ clamp face := by
  unfold clamp
  split
  · decide
  · split
    · decide
    · rename_i large _
      exact UInt8.not_lt.1 large

theorem clamp_le_six (face : UInt8) : clamp face ≤ 6 := by
  unfold clamp
  split
  · decide
  · split
    · decide
    · rename_i _ small
      exact UInt8.not_lt.1 small

instance : LawfulSource Scripted where
  below_lt _ state positive := Seeded.below_lt positive state.fallback
  one_le_face state := by
    simp only [RandomSource.rollDie, rollDie]
    split
    · exact one_le_clamp _
    · exact Seeded.one_le_rollDie state.fallback
  face_le_six state := by
    simp only [RandomSource.rollDie, rollDie]
    split
    · exact clamp_le_six _
    · exact Seeded.rollDie_le_six state.fallback

end Scripted

end SoloJournal
