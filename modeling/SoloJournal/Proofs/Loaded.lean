import SoloJournal.Chance.Source

/-!
# Loaded sources

Sources of chance that are easy to follow by hand.  Every number they are asked
for is zero, and their die always shows the same face, or else the faces that
are laid out for it.
-/

namespace SoloJournal

structure Loaded where
  face : UInt8
  one_le_face : 1 ≤ face
  face_le_six : face ≤ 6

namespace Loaded

instance : RandomSource Loaded where
  below _ state := (0, state)
  rollDie state := (state.face, state)

instance : LawfulSource Loaded where
  below_lt _ _ positive := positive
  one_le_face state := state.one_le_face
  face_le_six state := state.face_le_six

/-- Every die shows three. -/
def threes : Loaded where
  face := 3
  one_le_face := by decide
  face_le_six := by decide

end Loaded

/-- The faces that the die shows next, and then only sixes. -/
structure LaidOut where
  faces : List UInt8

instance : RandomSource LaidOut where
  below _ state := (0, state)
  rollDie state := (state.faces.headD 6, ⟨state.faces.tail⟩)

end SoloJournal
