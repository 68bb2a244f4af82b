import SoloJournal.Files.Tree
import SoloJournal.Save.Slot

/-!
# A save slot in a file

A saved game is first written to a sibling of the slot's file, whose name ends
in `.tmp`, and then moved into place.  Each of these steps may be refused, and
the call then ends with it.
-/

namespace SoloJournal

/-- A file of a tree that keeps a saved game. -/
structure FileSlot where
  path : FilePath
  tree : FileTree

namespace FileSlot

/-- The sibling that a saved game is first written to. -/
def temporary (path : FilePath) : FilePath :=
  path.withFileName (path.fileName?.getD "" ++ ".tmp")

def fault (error : FileError) : SaveError :=
  .io error.message

/-- An answer with the slot it leaves; an operation on the tree that fails
leaves the tree alone. -/
def settle (slot : FileSlot) (result : Except FileError FileTree) :
    Except SaveError Unit × FileSlot :=
  match result with
  | .ok tree => (.ok (), { slot with tree })
  | .error error => (.error (fault error), slot)

def loadUnder (refusals : Refusals) (slot : FileSlot) :
    Except SaveError (Option SavedGame) :=
  if slot.tree.exists? slot.path then
    match Refusals.check refusals.reading with
    | .error error => .error (fault error)
    | .ok () =>
      match slot.tree.readText slot.path with
      | .ok text => (SavedGame.ofText text).map some
      | .error error => .error (fault error)
  else .ok none

def saveUnder (refusals : Refusals) (saved : SavedGame) (slot : FileSlot) :
    Except SaveError Unit × FileSlot :=
  match slot.tree.makeDirectoriesUnder refusals 0 [] slot.path.parts.dropLast with
  | (.error error, tree) => (.error (fault error), { slot with tree })
  | (.ok (), tree) =>
    match tree.writeBytesUnder refusals (temporary slot.path) saved.toText.toUTF8 with
    | (.error error, tree) => (.error (fault error), { slot with tree })
    | (.ok (), tree) =>
      settle { slot with tree } (tree.moveFile refusals (temporary slot.path) slot.path)

def clearUnder (refusals : Refusals) (slot : FileSlot) :
    Except SaveError Unit × FileSlot :=
  if slot.tree.exists? slot.path then
    slot.settle (slot.tree.removeFile refusals slot.path)
  else (.ok (), slot)

def load (slot : FileSlot) : Except SaveError (Option SavedGame) :=
  slot.loadUnder .never

def save (saved : SavedGame) (slot : FileSlot) : Except SaveError Unit × FileSlot :=
  slot.saveUnder .never saved

def clear (slot : FileSlot) : Except SaveError Unit × FileSlot :=
  slot.clearUnder .never

instance : SaveSlot FileSlot where
  load slot := (slot.load, slot)
  save := save
  clear := clear

end FileSlot

/-- A slot in a file, and what the system refuses in each call on it, by the
number of earlier calls. -/
structure FaultyFile where
  slot : FileSlot
  plan : Nat → Refusals
  calls : Nat

namespace FaultyFile

/-- Makes the next call and counts it. -/
def attempt {α : Type} (call : Refusals → FileSlot → Except SaveError α × FileSlot)
    (file : FaultyFile) : Except SaveError α × FaultyFile :=
  let (answer, slot) := call (file.plan file.calls) file.slot
  (answer, { file with slot, calls := file.calls + 1 })

instance : SaveSlot FaultyFile where
  load := attempt (fun refusals slot => (slot.loadUnder refusals, slot))
  save saved := attempt (fun refusals => FileSlot.saveUnder refusals saved)
  clear := attempt FileSlot.clearUnder

end FaultyFile

end SoloJournal
