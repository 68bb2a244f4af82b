import Mathlib.Data.List.Basic
import Mathlib.Data.List.Induction
import SoloJournal.Files.Tree
import SoloJournal.Proofs.Steps

/-!
# Where paths lead in a changing tree

A path is followed through directories only, so an operation that leaves the
directories of a tree alone leaves the place alone that a path leads to.
Making directories adds what is missing and changes nothing else, wherever it
stops; in a tree where everything stands in a directory, and on a path that
never steps upwards, nothing is found beyond them that was not there before.
-/

namespace SoloJournal

namespace FilePath

variable {path : FilePath} {name : String}

/-- The path to a name in the directory that parts lead to. -/
def within (parts : List String) (name : String) (directoryOnly : Bool) :
    FilePath :=
  { parts := parts ++ [name], directoryOnly }

/-- A path with a file name is a path to that name. -/
theorem eq_within_of_fileName? (named : path.fileName? = some name) :
    path = within path.parts.dropLast name path.directoryOnly ∧ name ≠ ".." := by
  obtain ⟨last, down⟩ := Option.filter_eq_some_iff.mp named
  have parts : path.parts.dropLast ++ [name] = path.parts :=
    List.dropLast_append_getLast? name last
  refine ⟨?_, by simpa using down⟩
  rw [within, parts]

end FilePath

namespace FileTree

open FilePath (within)

variable {tree after : FileTree} {place home target : Location}
  {part : String} {parts : List String} {name : String}
  {refusals : Refusals}

/-! ## Nodes -/

@[simp] theorem node?_top (tree : FileTree) : tree.node? [] = some .directory :=
  rfl

theorem node?_of_ne_nil (below : place ≠ []) :
    tree.node? place = tree.nodes.lookup place := by
  cases place with
  | nil => exact absurd rfl below
  | cons => rfl

theorem ne_nil_of_not_directory (other : tree.node? place ≠ some .directory) :
    place ≠ [] := by
  rintro rfl
  exact other rfl

theorem lookup_remove (tree : FileTree) (gone place : Location) :
    (tree.remove gone).nodes.lookup place =
      if place = gone then none else tree.nodes.lookup place := by
  unfold remove
  induction tree.nodes with
  | nil => simp
  | cons entry nodes induction =>
      obtain ⟨entered, node⟩ := entry
      by_cases same : entered = gone
      · subst same
        rw [List.filter_cons_of_neg (by simp), induction, List.lookup_cons]
        by_cases found : place = entered
        · rw [if_pos found, if_pos found]
        · rw [if_neg found, if_neg found, beq_eq_false_iff_ne.mpr found]
      · rw [List.filter_cons_of_pos (by simpa using same), List.lookup_cons,
          List.lookup_cons, induction]
        by_cases found : place = entered
        · subst found
          simp [same]
        · rw [beq_eq_false_iff_ne.mpr found]

theorem node?_remove (tree : FileTree) {gone : Location} (below : gone ≠ [])
    (place : Location) :
    (tree.remove gone).node? place =
      if place = gone then none else tree.node? place := by
  by_cases top : place = []
  · subst top
    rw [if_neg below.symm, node?_top, node?_top]
  · rw [node?_of_ne_nil top, node?_of_ne_nil top, lookup_remove]

theorem node?_put (tree : FileTree) {filled : Location} (below : filled ≠ [])
    (node : FileNode) (place : Location) :
    (tree.put filled node).node? place =
      if place = filled then some node else tree.node? place := by
  by_cases top : place = []
  · subst top
    rw [if_neg below.symm, node?_top, node?_top]
  · rw [node?_of_ne_nil top, node?_of_ne_nil top, put, List.lookup_cons,
      lookup_remove]
    by_cases same : place = filled
    · simp [same]
    · simp [same, beq_eq_false_iff_ne.mpr same]

/-! ## Following -/

theorem stepTo_of_ne {part : String} (down : part ≠ "..") (place : Location) :
    stepTo place part = place ++ [part] :=
  if_neg down

/-- All directories of a tree are directories after a change of it. -/
def KeepsDirectories (tree after : FileTree) : Prop :=
  ∀ place, tree.node? place = some .directory →
    after.node? place = some .directory

/-- A change in one place keeps the directories if none stands there. -/
theorem keepsDirectories_of_elsewhere
    (other : tree.node? place ≠ some .directory)
    (elsewhere : ∀ there, there ≠ place →
      after.node? there = tree.node? there) :
    KeepsDirectories tree after := by
  intro directory stands
  rw [elsewhere directory, stands]
  rintro rfl
  exact other stands

theorem keepsDirectories_put (other : tree.node? place ≠ some .directory)
    (node : FileNode) : KeepsDirectories tree (tree.put place node) := by
  apply keepsDirectories_of_elsewhere other
  intro there apart
  rw [node?_put tree (ne_nil_of_not_directory other), if_neg apart]

/-- A file that has been put in a place stands there. -/
theorem node?_put_file (free : tree.node? place ≠ some .directory)
    (bytes : ByteArray) :
    (tree.put place (.file bytes)).node? place = some (.file bytes) := by
  rw [node?_put tree (ne_nil_of_not_directory free), if_pos rfl]

theorem keepsDirectories_remove (other : tree.node? place ≠ some .directory) :
    KeepsDirectories tree (tree.remove place) := by
  apply keepsDirectories_of_elsewhere other
  intro there apart
  rw [node?_remove tree (ne_nil_of_not_directory other), if_neg apart]

/-- A node that is moved keeps the directories if it is none and replaces none. -/
theorem keepsDirectories_move (other : tree.node? place ≠ some .directory)
    (room : tree.node? target ≠ some .directory) (node : FileNode) :
    KeepsDirectories tree ((tree.remove place).put target node) := by
  intro there stands
  rw [node?_put _ (ne_nil_of_not_directory room),
    node?_remove _ (ne_nil_of_not_directory other), if_neg, if_neg, stands]
  · rintro rfl
    exact other stands
  · rintro rfl
    exact room stands

theorem follow_cons (directory : tree.node? place = some .directory)
    (part : String) (parts : List String) :
    tree.follow place (part :: parts) = tree.follow (stepTo place part) parts := by
  rw [follow, directory]

theorem directory_of_follow_cons
    (leads : tree.follow place (part :: parts) = .ok target) :
    tree.node? place = some .directory := by
  rw [follow] at leads
  split at leads
  · cases leads
  · cases leads
  · assumption

/-- On the way to a directory every place is one. -/
theorem follow_next (follows : tree.follow place (part :: parts) = .ok home)
    (directory : tree.node? home = some .directory) :
    tree.follow (stepTo place part) parts = .ok home ∧
      tree.node? (stepTo place part) = some .directory := by
  rw [follow_cons (directory_of_follow_cons follows)] at follows
  refine ⟨follows, ?_⟩
  cases parts with
  | nil =>
      cases follows
      exact directory
  | cons other parts => exact directory_of_follow_cons follows

theorem follow_of_keepsDirectories (keeps : KeepsDirectories tree after)
    (leads : tree.follow place parts = .ok target) :
    after.follow place parts = .ok target := by
  induction parts generalizing place with
  | nil => exact leads
  | cons part parts induction =>
      have directory := directory_of_follow_cons leads
      rw [follow_cons directory] at leads
      rw [follow_cons (keeps place directory)]
      exact induction leads

theorem resolve_of_keepsDirectories {path : FilePath}
    (keeps : KeepsDirectories tree after) (leads : tree.resolve path = .ok place) :
    after.resolve path = .ok place := by
  unfold resolve at leads ⊢
  split at leads
  · cases leads
  · next meant =>
      rw [if_neg meant]
      exact follow_of_keepsDirectories keeps leads

theorem follow_append (tree : FileTree) (place : Location)
    (front back : List String) :
    tree.follow place (front ++ back) =
      (tree.follow place front).bind (tree.follow · back) := by
  induction front generalizing place with
  | nil => rfl
  | cons part front induction =>
      rw [List.cons_append, follow, follow]
      split
      · rfl
      · rfl
      · exact induction _

/-- Parts lead from the top to a directory. -/
structure Leads (tree : FileTree) (parts : List String) (home : Location) :
    Prop where
  follows : tree.follow [] parts = .ok home
  directory : tree.node? home = some .directory

theorem Leads.keeps (leads : tree.Leads parts home)
    (keeps : KeepsDirectories tree after) : after.Leads parts home where
  follows := follow_of_keepsDirectories keeps leads.follows
  directory := keeps home leads.directory

theorem Leads.follow_name (leads : tree.Leads parts home) (name : String) :
    tree.follow [] (parts ++ [name]) = .ok (stepTo home name) := by
  rw [follow_append, leads.follows]
  exact follow_cons leads.directory name []

/-- What is followed to a last name passes the directory that it stands in. -/
theorem leads_of_follow (follows : tree.follow [] (parts ++ [name]) = .ok target) :
    ∃ home, tree.Leads parts home ∧ target = stepTo home name := by
  rw [follow_append] at follows
  cases front : tree.follow [] parts with
  | error error =>
      rw [front] at follows
      cases follows
  | ok home =>
      rw [front] at follows
      have directory : tree.node? home = some .directory :=
        directory_of_follow_cons follows
      have last : tree.follow home [name] = .ok target := follows
      rw [follow_cons directory] at last
      cases last
      exact ⟨home, ⟨front, directory⟩, rfl⟩

/-- What is found in a place, by what stands there. -/
def found (directoryOnly : Bool) (place : Location) :
    Option FileNode → Except FileError (Location × FileNode)
  | none => .error .noEntry
  | some .directory => .ok (place, .directory)
  | some (.file bytes) =>
    if directoryOnly then .error .notDirectory else .ok (place, .file bytes)

theorem find_eq (tree : FileTree) (path : FilePath) :
    tree.find path = (tree.resolve path).bind (fun place =>
      found path.directoryOnly place (tree.node? place)) := by
  unfold find
  cases tree.resolve path with
  | error error => rfl
  | ok place =>
      simp only [bind, Except.bind]
      cases tree.node? place with
      | none => rfl
      | some node => cases node <;> rfl

theorem resolve_within (tree : FileTree) (parts : List String) (name : String)
    (directoryOnly : Bool) :
    tree.resolve (within parts name directoryOnly) =
      tree.follow [] (parts ++ [name]) := by
  simp [resolve, within]

theorem Leads.resolve_eq (leads : tree.Leads parts home) (down : name ≠ "..")
    (directoryOnly : Bool) :
    tree.resolve (within parts name directoryOnly) =
      .ok (home ++ [name]) := by
  rw [resolve_within, leads.follow_name, stepTo_of_ne down]

theorem Leads.find_eq (leads : tree.Leads parts home) (down : name ≠ "..")
    (directoryOnly : Bool) :
    tree.find (within parts name directoryOnly) =
      found directoryOnly (home ++ [name]) (tree.node? (home ++ [name])) := by
  rw [FileTree.find_eq, leads.resolve_eq down]
  rfl

theorem standing_of_found {directoryOnly : Bool} {node : Option FileNode}
    {standing : Location × FileNode}
    (finds : found directoryOnly place node = .ok standing) :
    standing.1 = place ∧ node = some standing.2 := by
  unfold found at finds
  split at finds
  · cases finds
  · cases finds
    exact ⟨rfl, rfl⟩
  · split at finds
    · cases finds
    · cases finds
      exact ⟨rfl, rfl⟩

theorem leads_of_isDirectory
    (leads : tree.isDirectory { parts, directoryOnly := true } = true) :
    ∃ home, tree.Leads parts home := by
  have resolves : tree.resolve { parts, directoryOnly := true } =
      tree.follow [] parts := by
    simp [resolve]
  unfold isDirectory at leads
  rw [find_eq, resolves] at leads
  cases follows : tree.follow [] parts with
  | error error => simp [follows, Except.bind] at leads
  | ok home =>
      refine ⟨home, follows, ?_⟩
      cases stands : tree.node? home with
      | none => simp [follows, stands, Except.bind, found] at leads
      | some node =>
          cases node with
          | directory => rfl
          | file bytes => simp [follows, stands, Except.bind, found] at leads

/-! ## Files -/

theorem exists?_eq_false_iff {path : FilePath} :
    tree.exists? path = false ↔ ∀ standing, tree.find path ≠ .ok standing := by
  unfold exists?
  cases tree.find path with
  | error error => simp [Except.toOption]
  | ok standing => simp [Except.toOption]

theorem readText_eq_ok_iff {path : FilePath} {text : String} :
    tree.readText path = .ok text ↔
      ∃ place bytes, tree.find path = .ok (place, .file bytes) ∧
        String.fromUTF8? bytes = some text := by
  unfold readText readBytes
  cases tree.find path with
  | error error => simp [bind, Except.bind]
  | ok standing =>
      obtain ⟨place, node⟩ := standing
      cases node with
      | directory => simp [bind, Except.bind, throw, throwThe,
          MonadExceptOf.throw]
      | file bytes =>
          cases read : String.fromUTF8? bytes <;>
            simp [read, bind, Except.bind, pure, Except.pure, throw, throwThe,
              MonadExceptOf.throw]

theorem find_file_iff {path : FilePath} {bytes : ByteArray} :
    tree.find path = .ok (place, .file bytes) ↔
      tree.resolve path = .ok place ∧
        tree.node? place = some (.file bytes) ∧ path.directoryOnly = false := by
  rw [find_eq]
  cases resolves : tree.resolve path with
  | error error => simp [Except.bind]
  | ok target =>
      simp only [Except.bind, Except.ok.injEq]
      constructor
      · intro finds
        obtain ⟨same, stands⟩ := standing_of_found finds
        cases same
        refine ⟨rfl, stands, ?_⟩
        rw [stands] at finds
        by_contra only
        simp [found, only] at finds
      · rintro ⟨rfl, stands, only⟩
        simp [found, stands, only]

theorem find_of_missing {path : FilePath} (leads : tree.resolve path = .ok place)
    (missing : tree.node? place = none) : tree.find path = .error .noEntry := by
  rw [find_eq, leads]
  simp [Except.bind, found, missing]

/-- What has been removed from where it was found is found no more. -/
theorem find_removed {path : FilePath} {bytes : ByteArray}
    (finds : tree.find path = .ok (place, .file bytes)) :
    (tree.remove place).find path = .error .noEntry := by
  obtain ⟨leads, stands, -⟩ := find_file_iff.mp finds
  have other : tree.node? place ≠ some .directory := by simp [stands]
  apply find_of_missing
    (resolve_of_keepsDirectories (keepsDirectories_remove other) leads)
  rw [node?_remove tree (ne_nil_of_not_directory other), if_pos rfl]

/-- A file is opened in a place where no directory stands. -/
theorem openFile_eq_ok {path : FilePath}
    (opened : tree.openFile refusals path = .ok place) :
    tree.resolve path = .ok place ∧ tree.node? place ≠ some .directory := by
  obtain ⟨-, -, opened⟩ := bind_eq_ok.mp opened
  obtain ⟨there, resolves, opened⟩ := bind_eq_ok.mp opened
  split at opened
  · cases opened
  · next free =>
      cases opened
      exact ⟨resolves, by simp_all⟩

/-- What is moved was found before, and takes the place of no directory. -/
theorem moveFile_eq_ok {source path : FilePath}
    (moved : tree.moveFile refusals source path = .ok after) :
    ∃ origin place bytes, tree.find source = .ok (origin, .file bytes) ∧
      tree.resolve path = .ok place ∧ tree.node? place ≠ some .directory ∧
      path.directoryOnly = false ∧
      after = (tree.remove origin).put place (.file bytes) := by
  obtain ⟨-, -, moved⟩ := bind_eq_ok.mp moved
  obtain ⟨⟨origin, node⟩, finds, moved⟩ := bind_eq_ok.mp moved
  cases node with
  | directory => cases moved
  | file bytes =>
      obtain ⟨place, resolves, moved⟩ := bind_eq_ok.mp moved
      split at moved
      · cases moved
      · split at moved
        · cases moved
        · next room only =>
            cases moved
            exact ⟨origin, place, bytes, finds, resolves, room, by simpa using only, rfl⟩

/-- A file is removed from where it is found. -/
theorem removeFile_eq_ok {path : FilePath}
    (removed : tree.removeFile refusals path = .ok after) :
    ∃ place bytes, tree.find path = .ok (place, .file bytes) ∧
      after = tree.remove place := by
  obtain ⟨-, -, removed⟩ := bind_eq_ok.mp removed
  obtain ⟨⟨place, node⟩, finds, removed⟩ := bind_eq_ok.mp removed
  cases node with
  | directory => cases removed
  | file bytes =>
      cases removed
      exact ⟨place, bytes, finds, rfl⟩

/-- Where parts lead to a directory, the path that has no more parts finds it. -/
theorem Leads.find_directory (leads : tree.Leads parts home)
    (directoryOnly : Bool) :
    tree.find { parts, directoryOnly } =
      if parts.isEmpty && !directoryOnly then .error .noEntry
      else .ok (home, .directory) := by
  rw [FileTree.find_eq]
  unfold resolve
  dsimp only
  split
  · rfl
  · rw [leads.follows]
    show found directoryOnly home (tree.node? home) = _
    rw [leads.directory]
    rfl

/-! ## Making directories -/

/-- A tree with more directories, and otherwise the same. -/
def Extends (tree after : FileTree) : Prop :=
  ∀ place, after.node? place = tree.node? place ∨
    tree.node? place = none ∧ after.node? place = some .directory

theorem extends_refl (tree : FileTree) : Extends tree tree :=
  fun _ => .inl rfl

theorem Extends.trans {middle : FileTree} (first : Extends tree middle)
    (second : Extends middle after) : Extends tree after := by
  intro place
  rcases second place with same | ⟨missing, made⟩
  · rw [same]
    exact first place
  · rcases first place with same | ⟨-, stands⟩
    · exact .inr ⟨same ▸ missing, made⟩
    · rw [stands] at missing
      cases missing

theorem Extends.keepsDirectories (more : Extends tree after) :
    KeepsDirectories tree after := by
  intro place stands
  rcases more place with same | ⟨-, made⟩
  · rw [same, stands]
  · exact made

theorem Extends.file_iff (more : Extends tree after) (place : Location)
    (bytes : ByteArray) :
    after.node? place = some (.file bytes) ↔
      tree.node? place = some (.file bytes) := by
  rcases more place with same | ⟨missing, made⟩
  · rw [same]
  · simp [missing, made]

theorem ne_nil_of_missing (missing : tree.node? place = none) : place ≠ [] := by
  rintro rfl
  cases missing

theorem extends_put_directory (missing : tree.node? place = none) :
    Extends tree (tree.put place .directory) := by
  intro other
  rw [node?_put tree (ne_nil_of_missing missing)]
  split
  · subst_vars
    exact .inr ⟨missing, rfl⟩
  · exact .inl rfl

theorem node?_put_directory (missing : tree.node? place = none) :
    (tree.put place .directory).node? place = some .directory := by
  rw [node?_put tree (ne_nil_of_missing missing), if_pos rfl]

/-- How directories are made from a place on: one after another as far as they
are missing, until all stand, or until one is barred or refused. -/
inductive Makes : Location → List String → FileTree → Except FileError Unit →
    FileTree → Prop
  | all {place : Location} {tree : FileTree} : Makes place [] tree (.ok ()) tree
  | halted {place : Location} {part : String} {parts : List String}
      {tree : FileTree} {error : FileError}
      (other : tree.node? (stepTo place part) ≠ some .directory) :
      Makes place (part :: parts) tree (.error error) tree
  | there {place : Location} {part : String} {parts : List String}
      {tree after : FileTree} {answer : Except FileError Unit}
      (stands : tree.node? (stepTo place part) = some .directory)
      (later : Makes (stepTo place part) parts tree answer after) :
      Makes place (part :: parts) tree answer after
  | made {place : Location} {part : String} {parts : List String}
      {tree after : FileTree} {answer : Except FileError Unit}
      (missing : tree.node? (stepTo place part) = none)
      (later : Makes (stepTo place part) parts
        (tree.put (stepTo place part) .directory) answer after) :
      Makes place (part :: parts) tree answer after

theorem makes_makeDirectoriesUnder (refusals : Refusals) (made : Nat)
    (place : Location) (parts : List String) (tree : FileTree) :
    Makes place parts tree
      (tree.makeDirectoriesUnder refusals made place parts).1
      (tree.makeDirectoriesUnder refusals made place parts).2 := by
  induction parts generalizing made place tree with
  | nil => exact .all
  | cons part parts induction =>
      cases stands : tree.node? (stepTo place part) with
      | none =>
          cases refused : refusals.directory made with
          | none =>
              simp only [makeDirectoriesUnder, stands, refused]
              exact .made stands (induction _ _ _)
          | some reason =>
              simp only [makeDirectoriesUnder, stands, refused]
              exact .halted (by simp [stands])
      | some node =>
          cases node with
          | directory =>
              simp only [makeDirectoriesUnder, stands]
              exact .there stands (induction _ _ _)
          | file bytes =>
              simp only [makeDirectoriesUnder, stands]
              exact .halted (by simp [stands])

namespace Makes

variable {answer : Except FileError Unit}

theorem more (makes : Makes place parts tree answer after) :
    Extends tree after := by
  induction makes with
  | all => exact extends_refl _
  | halted => exact extends_refl _
  | there stands later induction => exact induction
  | made missing later induction =>
      exact (extends_put_directory missing).trans induction

/-- Where all directories stand, none is made. -/
theorem eq_of_follow (makes : Makes place parts tree answer after)
    (follows : tree.follow place parts = .ok home)
    (directory : tree.node? home = some .directory) : after = tree := by
  induction makes with
  | all => rfl
  | halted other =>
      exact absurd (follow_next follows directory).2 other
  | there stands later induction =>
      exact induction (follow_next follows directory).1 directory
  | made missing later induction =>
      have stands := (follow_next follows directory).2
      rw [missing] at stands
      cases stands

end Makes

/-! ## Rooted trees -/

/-- Whatever stands in a tree stands in a directory. -/
def Rooted (tree : FileTree) : Prop :=
  ∀ place name, tree.node? (place ++ [name]) ≠ none →
    tree.node? place = some .directory

theorem rooted_of_nodes
    (placed : ∀ entry, entry ∈ tree.nodes →
      tree.node? entry.1.dropLast = some .directory) : tree.Rooted := by
  intro place name stands
  rw [node?_of_ne_nil (by simp)] at stands
  obtain ⟨node, found⟩ := Option.ne_none_iff_exists'.mp stands
  obtain ⟨before, later, nodes, -⟩ := List.lookup_eq_some_iff.mp found
  have parent := placed (place ++ [name], node) (by simp [nodes])
  simpa using parent

/-- Nothing stands below a place where nothing stands. -/
theorem Rooted.node?_append (rooted : tree.Rooted)
    (missing : tree.node? place = none) (more : List String) :
    tree.node? (place ++ more) = none := by
  induction more using List.reverseRecOn with
  | nil => simpa using missing
  | append_singleton more name induction =>
      rw [← List.append_assoc]
      by_contra stands
      rw [rooted _ _ stands] at induction
      cases induction

/-- A tree stays rooted when a node is put in a directory, and not over one. -/
theorem Rooted.put (rooted : tree.Rooted)
    (directory : tree.node? place.dropLast = some .directory)
    (other : tree.node? place ≠ some .directory) (node : FileNode) :
    (tree.put place node).Rooted := by
  have keeps := keepsDirectories_put other node
  intro parent name stands
  rw [node?_put tree (ne_nil_of_not_directory other)] at stands
  apply keeps
  split at stands
  · next same =>
      subst same
      simpa using directory
  · exact rooted parent name stands

theorem Rooted.remove (rooted : tree.Rooted)
    (other : tree.node? place ≠ some .directory) :
    (tree.remove place).Rooted := by
  have keeps := keepsDirectories_remove other
  intro parent name stands
  rw [node?_remove tree (ne_nil_of_not_directory other)] at stands
  apply keeps
  split at stands
  · exact absurd rfl stands
  · exact rooted parent name stands

/-- A tree stays rooted when what is no directory is moved into one, and not over
one. -/
theorem Rooted.move (rooted : tree.Rooted)
    (other : tree.node? place ≠ some .directory)
    (room : tree.node? target ≠ some .directory)
    (directory : tree.node? target.dropLast = some .directory)
    (node : FileNode) : ((tree.remove place).put target node).Rooted := by
  have stays := keepsDirectories_remove other _ directory
  have gone : (tree.remove place).node? target ≠ some .directory := by
    rw [node?_remove tree (ne_nil_of_not_directory other)]
    split
    · simp
    · exact room
  exact (rooted.remove other).put stays gone node

theorem Rooted.directory_dropLast (rooted : tree.Rooted)
    (directory : tree.node? place = some .directory) :
    tree.node? place.dropLast = some .directory := by
  induction place using List.reverseRecOn with
  | nil => rfl
  | append_singleton place name _ =>
      rw [List.dropLast_concat]
      exact rooted place name (by simp [directory])

/-- A step from a directory leads to a place in a directory. -/
theorem Rooted.directory_stepTo (rooted : tree.Rooted)
    (directory : tree.node? place = some .directory) (part : String) :
    tree.node? (stepTo place part).dropLast = some .directory := by
  unfold stepTo
  split
  · exact rooted.directory_dropLast (rooted.directory_dropLast directory)
  · rw [List.dropLast_concat]
    exact directory

theorem Makes.rooted {answer : Except FileError Unit}
    (makes : Makes place parts tree answer after)
    (directory : tree.node? place = some .directory) (rooted : tree.Rooted) :
    after.Rooted := by
  induction makes with
  | all => exact rooted
  | halted => exact rooted
  | there stands later induction => exact induction stands rooted
  | made missing later induction =>
      apply induction (node?_put_directory missing)
      exact rooted.put (rooted.directory_stepTo directory _) (by simp [missing]) _

/-- In a rooted tree a path leads into a directory. -/
theorem Rooted.directory_of_resolve {path : FilePath} (rooted : tree.Rooted)
    (leads : tree.resolve path = .ok place) :
    tree.node? place.dropLast = some .directory := by
  unfold resolve at leads
  split at leads
  · cases leads
  · generalize path.parts = parts at leads
    rcases List.eq_nil_or_concat parts with rfl | ⟨front, name, rfl⟩
    · cases leads
      rfl
    · rw [List.concat_eq_append] at leads
      obtain ⟨home, passes, rfl⟩ := leads_of_follow leads
      exact rooted.directory_stepTo passes.directory name

theorem missing_below_put (below : place ≠ [])
    (missing : ∀ more, more ≠ [] → tree.node? (place ++ more) = none)
    (node : FileNode) :
    ∀ more, more ≠ [] → (tree.put place node).node? (place ++ more) = none := by
  intro more some
  rw [node?_put tree below, if_neg (by simpa using some)]
  exact missing more some

/-- What is found by following parts from a place. -/
def findFrom (tree : FileTree) (place : Location) (parts : List String)
    (directoryOnly : Bool) : Except FileError (Location × FileNode) :=
  (tree.follow place parts).bind (fun target =>
    found directoryOnly target (tree.node? target))

theorem find_within (tree : FileTree) (parts : List String) (name : String)
    (directoryOnly : Bool) :
    tree.find (within parts name directoryOnly) =
      tree.findFrom [] (parts ++ [name]) directoryOnly := by
  rw [find_eq, resolve_within]
  rfl

theorem findFrom_cons (directory : tree.node? place = some .directory)
    (part : String) (parts : List String) (directoryOnly : Bool) :
    tree.findFrom place (part :: parts) directoryOnly =
      tree.findFrom (stepTo place part) parts directoryOnly := by
  rw [findFrom, follow_cons directory]
  rfl

theorem findFrom_of_missing (missing : tree.node? place = none)
    (parts : List String) (directoryOnly : Bool) :
    tree.findFrom place parts directoryOnly = .error .noEntry := by
  cases parts with
  | nil => simp [findFrom, follow, Except.bind, found, missing]
  | cons part parts => simp [findFrom, follow, Except.bind, missing]

namespace Makes

variable {answer : Except FileError Unit} {directoryOnly : Bool}

/-- Where nothing stands below a directory, and directories are made below it,
nothing is found beyond those. -/
theorem findFrom_of_empty (makes : Makes place parts tree answer after)
    (directory : tree.node? place = some .directory) (straight : ".." ∉ parts)
    (down : name ≠ "..")
    (empty : ∀ more, more ≠ [] → tree.node? (place ++ more) = none) :
    after.findFrom place (parts ++ [name]) directoryOnly = .error .noEntry := by
  induction makes with
  | all =>
      rw [List.nil_append, findFrom_cons directory, stepTo_of_ne down]
      exact findFrom_of_missing (empty [name] (by simp)) _ _
  | halted =>
      have next := List.ne_of_not_mem_cons straight
      rw [List.cons_append, findFrom_cons directory, stepTo_of_ne next.symm]
      exact findFrom_of_missing (empty _ (by simp)) _ _
  | there stands =>
      have next := List.ne_of_not_mem_cons straight
      rw [stepTo_of_ne next.symm, empty _ (by simp)] at stands
      cases stands
  | @made place part parts tree after answer missing later induction =>
      obtain ⟨next, straight⟩ := List.ne_and_not_mem_of_not_mem_cons straight
      have grown := (extends_put_directory missing).trans later.more
      rw [List.cons_append, findFrom_cons (grown.keepsDirectories _ directory)]
      apply induction (node?_put_directory missing) straight
      rw [stepTo_of_ne next.symm]
      apply missing_below_put (by simp)
      intro more _
      rw [List.append_assoc]
      exact empty _ (by simp)

/-- Making directories on a path that never steps upwards leaves what is found
beyond them as it was, also when it stops half-way: either all stand that are
passed, or the way was missing before, and what lies beyond is missing now. -/
theorem findFrom_eq (makes : Makes place parts tree answer after)
    (directory : tree.node? place = some .directory) (straight : ".." ∉ parts)
    (down : name ≠ "..") (rooted : tree.Rooted) :
    after.findFrom place (parts ++ [name]) directoryOnly =
      tree.findFrom place (parts ++ [name]) directoryOnly := by
  induction makes with
  | all => rfl
  | halted => rfl
  | there stands later induction =>
      obtain ⟨-, straight⟩ := List.ne_and_not_mem_of_not_mem_cons straight
      rw [List.cons_append, findFrom_cons directory,
        findFrom_cons (later.more.keepsDirectories _ directory)]
      exact induction stands straight rooted
  | @made place part parts tree after answer missing later induction =>
      obtain ⟨next, straight⟩ := List.ne_and_not_mem_of_not_mem_cons straight
      have grown := (extends_put_directory missing).trans later.more
      rw [List.cons_append, findFrom_cons directory,
        findFrom_cons (grown.keepsDirectories _ directory),
        findFrom_of_missing missing]
      apply later.findFrom_of_empty (node?_put_directory missing) straight down
      exact missing_below_put (ne_nil_of_missing missing)
        (fun more _ => rooted.node?_append missing more) .directory

end Makes

end FileTree

end SoloJournal
