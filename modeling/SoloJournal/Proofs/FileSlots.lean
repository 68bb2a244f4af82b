import SoloJournal.Proofs.Deeds
import SoloJournal.Proofs.FileTrees
import SoloJournal.Proofs.Leaving
import SoloJournal.Save.FileSlot

/-!
# A file as a slot

A slot in a file answers as one in memory does, as long as its file operations
succeed: the file that is written first is a sibling, which is gone once it has
been moved into place.  A save that fails at any of its steps, for whatever
reason, leaves what the path leads to as it was, unless the path steps upwards
out of a directory that is missing: the directory may have been made, and the
path then leads somewhere.
-/

namespace SoloJournal

theorem Refusals.take_eq_ok {refusals : Refusals} {bytes taken : ByteArray}
    (granted : refusals.take bytes = (.ok (), taken)) : taken = bytes := by
  unfold take at granted
  split at granted
  · cases granted
    rfl
  · split at granted
    · cases granted
    · cases granted
      rfl

namespace FileSlot

open FilePath (within)
open FileTree (Makes)

variable {slot : FileSlot} {saved : SavedGame} {refusals : Refusals}
  {path : FilePath} {place target : Location} {above after : FileTree}
  {parts : List String} {name : String} {directoryOnly : Bool}

/-! ## The temporary file -/

theorem temporary_down (name : String) : name ++ ".tmp" ≠ ".." := by
  intro same
  have length := congrArg String.length same
  rw [String.length_append] at length
  have short : ".tmp".length = 4 ∧ "..".length = 2 := ⟨rfl, rfl⟩
  omega

theorem temporary_within (down : name ≠ "..") :
    temporary (within parts name directoryOnly) =
      within parts (name ++ ".tmp") false := by
  simp [temporary, FilePath.withFileName, FilePath.fileName?, within, down,
    Option.filter]

/-- A path without a name has no parts or ends with a step upwards. -/
theorem parts_of_unnamed (unnamed : path.fileName? = none) :
    path.parts = [] ∨ path.parts = path.parts.dropLast ++ [".."] := by
  cases last : path.parts.getLast? with
  | none => exact .inl (List.getLast?_eq_none_iff.mp last)
  | some part =>
      have upward : part = ".." := by
        simpa [FilePath.fileName?, last, Option.filter] using unnamed
      subst upward
      exact .inr (List.dropLast_append_getLast? ".." last).symm

theorem temporary_of_unnamed (unnamed : path.fileName? = none) :
    temporary path = within path.parts ".tmp" false := by
  simp [temporary, FilePath.withFileName, unnamed, within]

/-- Where the temporary file is written: beside the name that the path ends in,
or in the directory that a path without a name leads to. -/
inductive Beside (above : FileTree) : FilePath → Location → Prop
  | named {parts : List String} {name : String} {directoryOnly : Bool}
      {home : Location} (leads : above.Leads parts home) (down : name ≠ "..") :
      Beside above (within parts name directoryOnly) (home ++ [name ++ ".tmp"])
  | unnamed {parts : List String} {directoryOnly : Bool} {home : Location}
      (leads : above.Leads parts home) :
      Beside above { parts, directoryOnly } (home ++ [".tmp"])

theorem beside_of_resolve
    (there : above.resolve (temporary path) = .ok place) :
    Beside above path place := by
  cases named : path.fileName? with
  | none =>
      rw [temporary_of_unnamed named, FileTree.resolve_within] at there
      obtain ⟨home, leads, rfl⟩ := FileTree.leads_of_follow there
      rw [FileTree.stepTo_of_ne (by decide)]
      exact .unnamed leads
  | some name =>
      obtain ⟨spelled, down⟩ := FilePath.eq_within_of_fileName? named
      rw [spelled, temporary_within down, FileTree.resolve_within] at there
      obtain ⟨home, leads, rfl⟩ := FileTree.leads_of_follow there
      rw [spelled, FileTree.stepTo_of_ne (temporary_down name)]
      exact .named leads down

/-- A path does not lead to its temporary file. -/
theorem Beside.apart (beside : Beside above path place)
    (leads : above.resolve path = .ok target) : place ≠ target := by
  cases beside with
  | @named parts name directoryOnly home passes down =>
      rw [passes.resolve_eq down] at leads
      cases leads
      simp
  | @unnamed parts directoryOnly home passes =>
      unfold FileTree.resolve at leads
      split at leads
      · cases leads
      · rw [passes.follows] at leads
        cases leads
        simp

/-- Writing the temporary file leaves what the path leads to as it was. -/
theorem Beside.find_put (beside : Beside above path place)
    (free : above.node? place ≠ some .directory) (node : FileNode) :
    (above.put place node).find path = above.find path := by
  have keeps := FileTree.keepsDirectories_put free node
  cases beside with
  | @named parts name directoryOnly home leads down =>
      have apart : home ++ [name] ≠ home ++ [name ++ ".tmp"] :=
        Ne.symm (by simp)
      rw [(leads.keeps keeps).find_eq down, leads.find_eq down,
        FileTree.node?_put _ (FileTree.ne_nil_of_not_directory free),
        if_neg apart]
  | unnamed leads =>
      exact ((leads.keeps keeps).find_directory _).trans
        (leads.find_directory _).symm

/-! ## Saving -/

/-- What a save that fails has left once directories have been made for it:
nothing more, or something in the temporary file. -/
inductive Halted (path : FilePath) (above : FileTree) : FileTree → Prop
  | unwritten : Halted path above above
  | unmoved {place : Location} {written : ByteArray}
      (there : above.resolve (temporary path) = .ok place)
      (free : above.node? place ≠ some .directory) :
      Halted path above (above.put place (.file written))

/-- What a save can come to once directories have been made for it, or could
not be: it fails, or the temporary file is written and moved into place. -/
inductive Saving (bytes : ByteArray) (path : FilePath) (above : FileTree) :
    Except SaveError Unit → FileTree → Prop
  | failed {error : FileError} {after : FileTree}
      (halted : Halted path above after) :
      Saving bytes path above (.error (fault error)) after
  | moved {place target : Location} {written : FileTree}
      (there : above.resolve (temporary path) = .ok place)
      (free : above.node? place ≠ some .directory)
      (writes : written = above.put place (.file bytes))
      (leads : written.resolve path = .ok target)
      (room : written.node? target ≠ some .directory)
      (aFile : path.directoryOnly = false) :
      Saving bytes path above (.ok ())
        ((written.remove place).put target (.file bytes))

theorem Saving.halted {bytes : ByteArray} {error : SaveError}
    (saving : Saving bytes path above (.error error) after) :
    Halted path above after := by
  cases saving with
  | failed halted => exact halted

/-- What is moved is what has just been written. -/
theorem saving_of_moveFile {bytes : ByteArray}
    (there : above.resolve (temporary path) = .ok place)
    (free : above.node? place ≠ some .directory)
    (moves : (above.put place (.file bytes)).moveFile refusals (temporary path)
      path = .ok after) :
    Saving bytes path above (.ok ()) after := by
  obtain ⟨origin, target, moved, finds, leads, room, aFile, rfl⟩ :=
    FileTree.moveFile_eq_ok moves
  obtain ⟨found, stands, -⟩ := FileTree.find_file_iff.mp finds
  have stays := FileTree.resolve_of_keepsDirectories
    (FileTree.keepsDirectories_put free (.file bytes)) there
  cases found.symm.trans stays
  cases stands.symm.trans (FileTree.node?_put_file free bytes)
  exact .moved there free rfl leads room aFile

theorem saving_saveUnder (refusals : Refusals) (saved : SavedGame)
    (slot : FileSlot) :
    Saving saved.toText.toUTF8 slot.path
      (slot.tree.makeDirectoriesUnder refusals 0 [] slot.path.parts.dropLast).2
      (slot.saveUnder refusals saved).1
      (slot.saveUnder refusals saved).2.tree := by
  unfold saveUnder
  rcases slot.tree.makeDirectoriesUnder refusals 0 []
    slot.path.parts.dropLast with ⟨error | done, above⟩
  · exact .failed .unwritten
  simp only [FileTree.writeBytesUnder]
  cases opened : above.openFile refusals (temporary slot.path) with
  | error error => exact .failed .unwritten
  | ok place =>
      obtain ⟨there, free⟩ := FileTree.openFile_eq_ok opened
      rcases taken : refusals.take saved.toText.toUTF8 with
        ⟨error | done, written⟩
      · exact .failed (.unmoved there free)
      · obtain rfl := Refusals.take_eq_ok taken
        simp only [settle]
        split
        · next moves => exact saving_of_moveFile there free moves
        · exact .failed (.unmoved there free)

theorem settle_path (slot : FileSlot) (result : Except FileError FileTree) :
    (slot.settle result).2.path = slot.path := by
  cases result <;> rfl

theorem saveUnder_path (refusals : Refusals) (saved : SavedGame)
    (slot : FileSlot) : (slot.saveUnder refusals saved).2.path = slot.path := by
  unfold saveUnder
  split
  · rfl
  · split
    · rfl
    · exact settle_path _ _

theorem clearUnder_path (refusals : Refusals) (slot : FileSlot) :
    (slot.clearUnder refusals).2.path = slot.path := by
  unfold clearUnder
  split
  · exact settle_path _ _
  · rfl

/-! ## What the file holds -/

/-- The file of a slot holds a text, or there is no such file. -/
def Holds (slot : FileSlot) : Option String → Prop
  | none => slot.tree.exists? slot.path = false
  | some text => slot.tree.readText slot.path = .ok text

/-- What a slot holds is loaded, unless reading is refused. -/
theorem loadUnder_of_holds {text : Option String} (holds : slot.Holds text) :
    slot.loadUnder refusals = readHeld text ∨
      ∃ reason, refusals.reading = some reason ∧
        slot.loadUnder refusals = .error (.io reason) := by
  cases text with
  | none =>
      left
      unfold loadUnder
      rw [show slot.tree.exists? slot.path = false from holds]
      rfl
  | some text =>
      obtain ⟨place, bytes, finds, -⟩ := FileTree.readText_eq_ok_iff.mp holds
      have stands : slot.tree.exists? slot.path = true := by
        unfold FileTree.exists?
        rw [finds]
        rfl
      unfold loadUnder
      rw [stands, show slot.tree.readText slot.path = .ok text from holds]
      cases refusals.reading with
      | none => exact .inl rfl
      | some reason => exact .inr ⟨reason, rfl, rfl⟩

theorem load_of_holds {text : Option String} (holds : slot.Holds text) :
    slot.load = readHeld text := by
  rcases loadUnder_of_holds holds with loads | ⟨reason, refused, -⟩
  · exact loads
  · cases refused

/-- What is loaded is read from what the slot holds. -/
theorem holds_of_loadUnder {found : Option SavedGame}
    (loads : slot.loadUnder refusals = .ok found) :
    ∃ held, slot.Holds held ∧ readHeld held = .ok found := by
  unfold loadUnder at loads
  split at loads
  case isTrue stands =>
    split at loads
    · cases loads
    · split at loads
      · next text read => exact ⟨some text, read, loads⟩
      · cases loads
  case isFalse missing =>
    exact ⟨none, by simpa [Holds] using missing, loads⟩

theorem loadUnder_congr {left right : FileSlot}
    (same : left.tree.find left.path = right.tree.find right.path)
    (refusals : Refusals) : left.loadUnder refusals = right.loadUnder refusals := by
  unfold loadUnder FileTree.exists? FileTree.readText FileTree.readBytes
  rw [same]

/-- What is moved into place is found there, and not beside it. -/
theorem Saving.found {bytes : ByteArray}
    (saving : Saving bytes path above (.ok ()) after) :
    (∃ target, after.find path = .ok (target, .file bytes)) ∧
      after.find (temporary path) = .error .noEntry := by
  cases saving with
  | @moved place target written there free writes leads room aFile =>
      have other : written.node? place ≠ some .directory := by
        simp [writes, FileTree.node?_put_file free]
      have wrote := FileTree.keepsDirectories_put free (.file bytes)
      rw [← writes] at wrote
      have moved := FileTree.keepsDirectories_move other room (.file bytes)
      have stays := FileTree.resolve_of_keepsDirectories wrote there
      have standing := FileTree.node?_put (written.remove place)
        (FileTree.ne_nil_of_not_directory room) (.file bytes)
      constructor
      · refine ⟨target, FileTree.find_file_iff.mpr
          ⟨FileTree.resolve_of_keepsDirectories moved leads, ?_, aFile⟩⟩
        rw [standing, if_pos rfl]
      · apply FileTree.find_of_missing
          (FileTree.resolve_of_keepsDirectories moved stays)
        rw [standing, if_neg ((beside_of_resolve stays).apart leads),
          FileTree.node?_remove _ (FileTree.ne_nil_of_not_directory other),
          if_pos rfl]

/-- A save that is granted leaves the text in the file, and nothing beside it. -/
theorem holds_saveUnder
    (granted : (slot.saveUnder refusals saved).1 = .ok ()) :
    (slot.saveUnder refusals saved).2.Holds (some saved.toText) ∧
      (slot.saveUnder refusals saved).2.tree.exists? (temporary slot.path) =
        false := by
  have saving := saving_saveUnder refusals saved slot
  rw [granted] at saving
  obtain ⟨⟨target, finds⟩, gone⟩ := saving.found
  constructor
  · rw [← saveUnder_path refusals saved slot] at finds
    refine FileTree.readText_eq_ok_iff.mpr ⟨target, _, finds, ?_⟩
    exact dif_pos saved.toText.isValidUTF8
  · rw [FileTree.exists?_eq_false_iff, gone]
    nofun

/-- Clearing that is granted leaves no file. -/
theorem holds_clearUnder (granted : (slot.clearUnder refusals).1 = .ok ()) :
    (slot.clearUnder refusals).2.Holds none := by
  show FileTree.exists? _ _ = false
  rw [clearUnder_path]
  unfold clearUnder at granted ⊢
  split at granted
  · next stands =>
      rw [if_pos stands]
      cases removal : slot.tree.removeFile refusals slot.path with
      | error error =>
          rw [removal] at granted
          cases granted
      | ok after =>
          obtain ⟨place, bytes, finds, rfl⟩ := FileTree.removeFile_eq_ok removal
          simp only [settle]
          rw [FileTree.exists?_eq_false_iff, FileTree.find_removed finds]
          nofun
  · next missing =>
      rw [if_neg missing]
      simpa using missing

/-! ## Saves that fail -/

/-- Making the directories above what a path leads to leaves it as it was. -/
theorem find_of_makes {tree : FileTree} {answer : Except FileError Unit}
    (makes : Makes [] path.parts.dropLast tree answer above)
    (rooted : tree.Rooted)
    (passable : ".." ∉ path.parts ∨
      tree.isDirectory
        { parts := path.parts.dropLast, directoryOnly := true } = true) :
    above.find path = tree.find path := by
  rcases passable with straight | stands
  · cases named : path.fileName? with
    | some name =>
        obtain ⟨spelled, down⟩ := FilePath.eq_within_of_fileName? named
        rw [spelled, FileTree.find_within, FileTree.find_within]
        exact makes.findFrom_eq rfl
          (fun upward => straight (List.dropLast_subset _ upward)) down rooted
    | none =>
        -- without a name there are no parts, and no directories to make
        rcases parts_of_unnamed named with none | upward
        · rw [none] at makes
          cases makes
          rfl
        · rw [upward] at straight
          simp at straight
  · -- upward steps do no harm where there is nothing to make
    obtain ⟨home, leads⟩ := FileTree.leads_of_isDirectory stands
    rw [makes.eq_of_follow leads.follows leads.directory]

theorem Halted.find_eq (halted : Halted path above after) :
    after.find path = above.find path := by
  cases halted with
  | unwritten => rfl
  | unmoved there free => exact (beside_of_resolve there).find_put free _

/-- Directories and the temporary file are all that is made. -/
theorem Halted.file_iff {tree : FileTree} {place : Location}
    (halted : Halted path above after) (more : FileTree.Extends tree above)
    (apart : after.resolve (temporary path) ≠ .ok place) (bytes : ByteArray) :
    after.node? place = some (.file bytes) ↔
      tree.node? place = some (.file bytes) := by
  cases halted with
  | unwritten => exact more.file_iff place bytes
  | @unmoved beside written there free =>
      have stays := FileTree.resolve_of_keepsDirectories
        (FileTree.keepsDirectories_put free (.file written)) there
      have other : place ≠ beside := by
        rintro rfl
        exact apart stays
      rw [FileTree.node?_put _ (FileTree.ne_nil_of_not_directory free),
        if_neg other]
      exact more.file_iff place bytes

/-- A file slot to which no harm has been done: no file has changed but the
temporary one, and where the path never steps upwards, or its directory stands,
it leads to what it led to, and the same is loaded. -/
def Spared (slot after : FileSlot) : Prop :=
  (∀ place bytes, after.tree.resolve (temporary slot.path) ≠ .ok place →
    (after.tree.node? place = some (.file bytes) ↔
      slot.tree.node? place = some (.file bytes))) ∧
  (slot.tree.Rooted →
    ".." ∉ slot.path.parts ∨
        slot.tree.isDirectory
          { parts := slot.path.parts.dropLast, directoryOnly := true } = true →
      after.tree.find slot.path = slot.tree.find slot.path ∧
        ∀ refusals, after.loadUnder refusals = slot.loadUnder refusals)

/-- A save that fails does no harm, whatever was refused. -/
theorem spared_saveUnder {error : SaveError}
    (failed : (slot.saveUnder refusals saved).1 = .error error) :
    Spared slot (slot.saveUnder refusals saved).2 := by
  have makes := FileTree.makes_makeDirectoriesUnder refusals 0 []
    slot.path.parts.dropLast slot.tree
  have saving := saving_saveUnder refusals saved slot
  rw [failed] at saving
  have halted := saving.halted
  constructor
  · intro place bytes apart
    exact halted.file_iff makes.more apart bytes
  · intro rooted passable
    have same := halted.find_eq.trans (find_of_makes makes rooted passable)
    exact ⟨same, loadUnder_congr (by rw [saveUnder_path, same])⟩

/-! ## Rooted trees -/

theorem rooted_saveUnder (rooted : slot.tree.Rooted) (refusals : Refusals)
    (saved : SavedGame) : (slot.saveUnder refusals saved).2.tree.Rooted := by
  have saving := saving_saveUnder refusals saved slot
  have above := (FileTree.makes_makeDirectoriesUnder refusals 0 []
    slot.path.parts.dropLast slot.tree).rooted rfl rooted
  generalize (slot.saveUnder refusals saved).1 = answer at saving
  generalize (slot.saveUnder refusals saved).2.tree = after at saving
  cases saving with
  | failed halted =>
      cases halted with
      | unwritten => exact above
      | unmoved there free =>
          exact above.put (above.directory_of_resolve there) free _
  | @moved place target written there free writes leads room =>
      have wrote := above.put (above.directory_of_resolve there) free
        (.file saved.toText.toUTF8)
      rw [← writes] at wrote
      have other : written.node? place ≠ some .directory := by
        simp [writes, FileTree.node?_put_file free]
      exact wrote.move other room (wrote.directory_of_resolve leads) _

theorem rooted_clearUnder (rooted : slot.tree.Rooted) (refusals : Refusals) :
    (slot.clearUnder refusals).2.tree.Rooted := by
  unfold clearUnder
  split
  · cases removal : slot.tree.removeFile refusals slot.path with
    | error error => exact rooted
    | ok after =>
        obtain ⟨place, bytes, finds, rfl⟩ := FileTree.removeFile_eq_ok removal
        obtain ⟨-, stands, -⟩ := FileTree.find_file_iff.mp finds
        exact rooted.remove (by simp [stands])
  · exact rooted

end FileSlot

/-! ## Calls -/

namespace SaveSlot

/-- A call on a slot, with what is handed over. -/
inductive Call where
  | load
  | request (request : Request)

inductive Answer where
  | loaded (game : Except SaveError (Option SavedGame))
  | done (granted : Except SaveError Unit)

/-- Whether it is the outside that has failed, and not what was loaded. -/
def Answer.isFault : Answer → Bool
  | loaded (.error (.io _)) => true
  | done (.error (.io _)) => true
  | _ => false

variable {κ : Type} [SaveSlot κ]

def Call.make : Call → κ → Answer × κ
  | load, slot => (.loaded (SaveSlot.load slot).1, (SaveSlot.load slot).2)
  | request asked, slot => (.done (asked.call slot).1, (asked.call slot).2)

/-- The answers to calls that are made in turn. -/
def answers (slot : κ) : List Call → List Answer
  | [] => []
  | call :: calls => (call.make slot).1 :: answers (call.make slot).2 calls

end SaveSlot

namespace FileSlot

open SaveSlot (Call answers)

theorem settle_answer (slot : FileSlot) (result : Except FileError FileTree) :
    (slot.settle result).1 = .ok () ∨
      ∃ error, (slot.settle result).1 = .error (fault error) := by
  cases result with
  | error error => exact .inr ⟨error, rfl⟩
  | ok tree => exact .inl rfl

theorem clearUnder_answer (refusals : Refusals) (slot : FileSlot) :
    (slot.clearUnder refusals).1 = .ok () ∨
      ∃ error, (slot.clearUnder refusals).1 = .error (fault error) := by
  unfold clearUnder
  split
  · exact settle_answer _ _
  · exact .inl rfl

theorem saveUnder_answer (refusals : Refusals) (saved : SavedGame)
    (slot : FileSlot) :
    (slot.saveUnder refusals saved).1 = .ok () ∨
      ∃ error, (slot.saveUnder refusals saved).1 = .error (fault error) := by
  have saving := saving_saveUnder refusals saved slot
  generalize (slot.saveUnder refusals saved).1 = answer at saving
  generalize (slot.saveUnder refusals saved).2.tree = after at saving
  cases saving with
  | failed => exact .inr ⟨_, rfl⟩
  | moved => exact .inl rfl

/-- What is asked of the tree and does not fail is granted. -/
theorem granted_of_succeeds {answer : Except SaveError Unit}
    (possible : answer = .ok () ∨ ∃ error, answer = .error (fault error))
    (succeeds : (SaveSlot.Answer.done answer).isFault = false) :
    answer = .ok () := by
  rcases possible with granted | ⟨error, rfl⟩
  · exact granted
  · cases succeeds

/-- A call on a file that does not fail is answered as one on a slot in memory
that holds the same, and both hold the same again. -/
theorem mirrors_make {file : FaultyFile} {memory : MemorySlot}
    (holds : file.slot.Holds memory.text) {call : Call}
    (succeeds : (call.make file).1.isFault = false) :
    (call.make file).1 = (call.make memory).1 ∧
      (call.make file).2.slot.Holds (call.make memory).2.text := by
  cases call with
  | load =>
      refine ⟨?_, holds⟩
      rcases loadUnder_of_holds holds with loads | ⟨reason, -, refused⟩
      · exact congrArg SaveSlot.Answer.loaded (loads.trans memory.load_eq.symm)
      · change (SaveSlot.Answer.loaded (file.slot.loadUnder _)).isFault = false
          at succeeds
        rw [refused] at succeeds
        cases succeeds
  | request asked =>
      cases asked with
      | save saved =>
          have granted := granted_of_succeeds
            (saveUnder_answer (file.plan file.calls) saved file.slot) succeeds
          exact ⟨congrArg SaveSlot.Answer.done granted,
            (holds_saveUnder granted).1⟩
      | clear =>
          have granted := granted_of_succeeds
            (clearUnder_answer (file.plan file.calls) file.slot) succeeds
          exact ⟨congrArg SaveSlot.Answer.done granted,
            holds_clearUnder granted⟩

theorem answers_eq {file : FaultyFile} {memory : MemorySlot}
    (holds : file.slot.Holds memory.text) {calls : List Call}
    (succeed : ∀ answer, answer ∈ answers file calls → answer.isFault = false) :
    answers file calls = answers memory calls := by
  induction calls generalizing file memory with
  | nil => rfl
  | cons call calls induction =>
      obtain ⟨same, later⟩ :=
        mirrors_make holds (succeed _ List.mem_cons_self)
      have rest := induction later (fun answer member =>
        succeed answer (List.mem_cons_of_mem _ member))
      rw [answers, answers, same, rest]

/-- Where nothing is refused, calls are answered as the tree alone allows. -/
theorem answers_never (slot : FileSlot) (earlier : Nat) (calls : List Call) :
    answers { slot, plan := fun _ => .never, calls := earlier : FaultyFile }
      calls = answers slot calls := by
  induction calls generalizing slot earlier with
  | nil => rfl
  | cons call calls induction =>
      rw [answers, answers]
      rcases call with - | - | -
      · exact congrArg _ (induction _ _)
      · exact congrArg _ (induction _ _)
      · exact congrArg _ (induction _ _)

theorem rooted_make {file : FaultyFile} (rooted : file.slot.tree.Rooted)
    (call : Call) : (call.make file).2.slot.tree.Rooted := by
  cases call with
  | load => exact rooted
  | request asked =>
      cases asked with
      | save saved => exact rooted_saveUnder rooted _ saved
      | clear => exact rooted_clearUnder rooted _

/-- A slot in a file answers any calls as one in memory that holds the same text,
whatever the system refuses and when, as long as none of the file operations
fails; and a save that is granted leaves no temporary file.  A save that fails,
in whatever step, changes no other file.  If the path never steps upwards, or its
directory stands, it leads to what it led to before, and the same is loaded.
The calls keep the tree one in which everything stands in a directory. -/
theorem mirrors_memory (slot : FileSlot) :
    (∀ (memory : MemorySlot) (calls : List Call), slot.Holds memory.text →
      (∀ answer, answer ∈ answers slot calls → answer.isFault = false) →
        answers slot calls = answers memory calls) ∧
      ∀ (plan : Nat → Refusals) (earlier : Nat),
        let file : FaultyFile := { slot, plan, calls := earlier }
        (∀ (memory : MemorySlot) (calls : List Call), slot.Holds memory.text →
          (∀ answer, answer ∈ answers file calls → answer.isFault = false) →
            answers file calls = answers memory calls) ∧
          (∀ saved, (SaveSlot.save saved file).1 = .ok () →
            (SaveSlot.save saved file).2.slot.tree.exists?
              (temporary slot.path) = false) ∧
          (∀ saved error, (SaveSlot.save saved file).1 = .error error →
            Spared slot (SaveSlot.save saved file).2.slot) ∧
          (slot.tree.Rooted →
            ∀ call : Call, (call.make file).2.slot.tree.Rooted) := by
  constructor
  · intro memory calls holds succeed
    rw [← answers_never slot 0] at succeed ⊢
    exact answers_eq holds succeed
  · intro plan earlier file
    refine ⟨?_, ?_, ?_, ?_⟩
    · intro memory calls holds succeed
      exact answers_eq holds succeed
    · intro saved granted
      exact (holds_saveUnder granted).2
    · intro saved error failed
      exact spared_saveUnder failed
    · intro rooted call
      exact rooted_make rooted call

open Terminal.Table (begun) in
/-- A game is saved over a text that is none, beside an old temporary file, and
cleared; and over the same text, but there is no room for another file, or the
move is refused, and the text is still there. -/
theorem mirrors_memory_runs :
    let saved := (begun MemorySlot.empty Loaded.threes).game.saved
    let spoiled : FileSlot :=
      { path := .ofText "runs/save.json"
        tree := { nodes := [(["runs"], .directory),
          (["runs", "save.json"], .file "old".toUTF8),
          (["runs", "save.json.tmp"], .file "older".toUTF8)] } }
    let memory : MemorySlot := { text := some "old", writes := 0 }
    let calls : List Call :=
      [.load, .request (.save saved), .request .clear, .load]
    let full := "No space left on device (os error 28)"
    let denied := "Permission denied (os error 13)"
    let plan : Nat → Refusals := fun earlier =>
      if earlier = 0 then { Refusals.never with opening := some full }
      else { Refusals.never with moving := some denied }
    let first : FaultyFile := { slot := spoiled, plan, calls := 0 }
    let later : FaultyFile := { slot := spoiled, plan, calls := 1 }
    (spoiled.Holds memory.text ∧
        (∀ answer, answer ∈ answers spoiled calls → answer.isFault = false) ∧
        answers spoiled calls = answers memory calls) ∧
      spoiled.tree.Rooted ∧
      ((SaveSlot.save saved first).1 = .error (.io full) ∧
        (SaveSlot.save saved first).2.slot.load = spoiled.load) ∧
      (SaveSlot.save saved later).1 = .error (.io denied) ∧
        (SaveSlot.save saved later).2.slot.load = spoiled.load := by
  intro saved spoiled memory calls full denied plan first later
  have holds : spoiled.Holds memory.text := by
    show spoiled.tree.readText spoiled.path = .ok "old"
    decide +kernel
  have succeed : ∀ answer, answer ∈ answers spoiled calls →
      answer.isFault = false := by
    have none : (answers spoiled calls).any SaveSlot.Answer.isFault = false := by
      decide +kernel
    simpa using none
  have rooted : spoiled.tree.Rooted := FileTree.rooted_of_nodes (by decide)
  have unopened : (SaveSlot.save saved first).1 = .error (.io full) := by
    decide +kernel
  have unmoved : (SaveSlot.save saved later).1 = .error (.io denied) := by
    decide +kernel
  have straight : ".." ∉ spoiled.path.parts := by decide +kernel
  obtain ⟨mirrored, fails⟩ := mirrors_memory spoiled
  obtain ⟨-, -, failsFirst, -⟩ := fails plan 0
  obtain ⟨-, -, failsLater, -⟩ := fails plan 1
  obtain ⟨-, keptFirst⟩ := (failsFirst saved _ unopened).2 rooted (.inl straight)
  obtain ⟨-, keptLater⟩ := (failsLater saved _ unmoved).2 rooted (.inl straight)
  exact ⟨⟨holds, succeed, mirrored memory calls holds succeed⟩, rooted,
    ⟨unopened, keptFirst .never⟩, unmoved, keptLater .never⟩

open Terminal.Table (begun) in
/-- A save can fail after it has made a directory that the path steps out of,
and what nothing led to before is then loaded. -/
theorem failed_save_opens_a_way :
    let saved := (begun MemorySlot.empty Loaded.threes).game.saved
    let slot : FileSlot :=
      { path := .ofText "x/../save.json"
        tree := { nodes := [(["save.json"], .file "kept".toUTF8),
          (["save.json.tmp"], .directory)] } }
    slot.path.fileName? = some "save.json" ∧ slot.tree.Rooted ∧
      (slot.save saved).1 = .error (fault .isDirectory) ∧
      slot.load = .ok none ∧ (slot.save saved).2.load = .error .unreadable := by
  refine ⟨?_, FileTree.rooted_of_nodes (by decide), ?_, ?_, ?_⟩
  all_goals decide +kernel

end FileSlot

end SoloJournal
