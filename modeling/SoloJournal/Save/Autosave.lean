/-!
# Saving the journal by itself

An edited journal is saved once it has been left alone for an interval, so that
a burst of edits is saved once.  Times are milliseconds on one clock.
-/

namespace SoloJournal

structure Autosave where
  interval : Nat
  /-- When the journal was last edited, while that edit is not saved. -/
  edited : Option Nat
  deriving DecidableEq

namespace Autosave

def every (interval : Nat) : Autosave :=
  { interval, edited := none }

/-- Saving after a second. -/
def standard : Autosave := every 1000

def noteEdit (now : Nat) (autosave : Autosave) : Autosave :=
  { autosave with edited := some now }

/-- Whether an edit is still to be saved. -/
def isDirty (autosave : Autosave) : Bool :=
  autosave.edited.isSome

/-- Whether the last unsaved edit is at least an interval ago.  A time before
the edit counts as the time of the edit. -/
def isDue (now : Nat) (autosave : Autosave) : Bool :=
  match autosave.edited with
  | some edited => autosave.interval ≤ now - edited
  | none => false

def markSaved (autosave : Autosave) : Autosave :=
  { autosave with edited := none }

end Autosave

end SoloJournal
