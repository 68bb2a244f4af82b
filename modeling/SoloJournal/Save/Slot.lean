import SoloJournal.Save.SavedGame

/-!
# Save slots

A slot keeps at most one saved game; the last one written wins.  Each call on
a slot gives the slot after it, also when it fails: what the slot keeps is then
still what it kept before.
-/

namespace SoloJournal

/-- A place that keeps one saved game. -/
class SaveSlot (κ : Type) where
  load : κ → Except SaveError (Option SavedGame) × κ
  save : SavedGame → κ → Except SaveError Unit × κ
  clear : κ → Except SaveError Unit × κ

/-- A slot in memory, which also counts how often it was written. -/
structure MemorySlot where
  text : Option String
  writes : Nat
  deriving DecidableEq

namespace MemorySlot

def empty : MemorySlot := { text := none, writes := 0 }

def load (slot : MemorySlot) : Except SaveError (Option SavedGame) :=
  match slot.text with
  | none => .ok none
  | some text => (SavedGame.ofText text).map some

def save (saved : SavedGame) (slot : MemorySlot) : MemorySlot :=
  { text := some saved.toText, writes := slot.writes + 1 }

def clear (slot : MemorySlot) : MemorySlot :=
  { slot with text := none }

instance : SaveSlot MemorySlot where
  load slot := (slot.load, slot)
  save saved slot := (.ok (), slot.save saved)
  clear slot := (.ok (), slot.clear)

end MemorySlot

/-- The calls on a slot. -/
inductive SlotCall where
  | load
  | save
  | clear
  deriving DecidableEq

/-- A slot that refuses some of its calls: those whose kind, with the number of
earlier calls of that kind, is planned. -/
structure FaultySlot (κ : Type) where
  inner : κ
  refuses : SlotCall → Nat → Bool
  /-- How many calls of each kind there have been. -/
  calls : SlotCall → Nat
  reason : String

namespace FaultySlot

variable {κ : Type}

/-- Makes a call, unless it is to be refused, and counts it. -/
def attempt {α : Type} (kind : SlotCall) (call : κ → Except SaveError α × κ)
    (slot : FaultySlot κ) : Except SaveError α × FaultySlot κ :=
  let counted := fun other => slot.calls other + if other = kind then 1 else 0
  if slot.refuses kind (slot.calls kind) then
    (.error (.io slot.reason), { slot with calls := counted })
  else
    let (answer, inner) := call slot.inner
    (answer, { slot with inner, calls := counted })

instance [SaveSlot κ] : SaveSlot (FaultySlot κ) where
  load := attempt .load SaveSlot.load
  save saved := attempt .save (SaveSlot.save saved)
  clear := attempt .clear SaveSlot.clear

end FaultySlot

end SoloJournal
