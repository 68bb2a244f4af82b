/-!
# File trees

Directories and files below one top directory.  A path is followed part by
part; every part but the last must lead to a directory.  What a tree allows may
still be refused from outside, and a step that is refused leaves behind what it
has done so far.
-/

namespace SoloJournal

/-- What stands at a place of a tree. -/
inductive FileNode where
  | directory
  | file (bytes : ByteArray)

instance : DecidableEq FileNode
  | .directory, .directory => isTrue rfl
  | .directory, .file _ => isFalse nofun
  | .file _, .directory => isFalse nofun
  | .file left, .file right =>
    match ByteArray.decEq left right with
    | isTrue same => isTrue (congrArg FileNode.file same)
    | isFalse differs => isFalse (fun same => differs (FileNode.file.inj same))

/-- The names of the directories from the top down to a place. -/
abbrev Location := List String

inductive FileError where
  | noEntry
  | alreadyExists
  | notDirectory
  | isDirectory
  | notText
  /-- Something other than the tree is in the way. -/
  | refused (reason : String)
  deriving DecidableEq

namespace FileError

def message : FileError → String
  | noEntry => "No such file or directory (os error 2)"
  | alreadyExists => "File exists (os error 17)"
  | notDirectory => "Not a directory (os error 20)"
  | isDirectory => "Is a directory (os error 21)"
  | notText => "stream did not contain valid UTF-8"
  | refused reason => reason

end FileError

/-- What the system refuses to do though the tree allows it, each with the
reason: for want of room or of a permission, say.  Whether something stands at a
path can always be seen. -/
structure Refusals where
  /-- Making a directory, after so many have been made. -/
  directory : Nat → Option String
  /-- Opening a file to write it. -/
  opening : Option String
  /-- Taking more than so many bytes. -/
  writing : Option (Nat × String)
  moving : Option String
  removing : Option String
  reading : Option String

namespace Refusals

/-- Nothing is refused. -/
def never : Refusals where
  directory _ := none
  opening := none
  writing := none
  moving := none
  removing := none
  reading := none

/-- Fails for a reason, if there is one. -/
def check : Option String → Except FileError Unit
  | none => .ok ()
  | some reason => .error (.refused reason)

/-- How many of some bytes are taken, and whether those are all. -/
def take (refusals : Refusals) (bytes : ByteArray) :
    Except FileError Unit × ByteArray :=
  match refusals.writing with
  | none => (.ok (), bytes)
  | some (most, reason) =>
    if most < bytes.size then (.error (.refused reason), bytes.extract 0 most)
    else (.ok (), bytes)

end Refusals

/-- A path below the top directory. -/
structure FilePath where
  /-- The names to follow, without those that stay in place. -/
  parts : List String
  /-- Whether only a directory can be meant.  A path without parts means
  nothing at all, unless this is set. -/
  directoryOnly : Bool
  deriving DecidableEq

namespace FilePath

/-- Cuts characters at every separator. -/
def pieces (separator : Char) : List Char → List (List Char)
  | [] => [[]]
  | char :: chars =>
    if char = separator then [] :: pieces separator chars
    else
      match pieces separator chars with
      | [] => [[char]]
      | piece :: more => (char :: piece) :: more

/-- The path that a text spells. -/
def ofText (text : String) : FilePath :=
  let names := (pieces '/' text.toList).map String.ofList
  { parts := names.filter (fun name => name != "" && name != ".")
    directoryOnly := text != "" && ["", ".", ".."].contains (names.getLastD "") }

/-- The text of a path within a directory. -/
def joinText (directory name : String) : String :=
  if directory.isEmpty || directory.endsWith "/" then directory ++ name
  else directory ++ "/" ++ name

/-- The name of what a path leads to, unless its last step leads upwards. -/
def fileName? (path : FilePath) : Option String :=
  path.parts.getLast?.filter (fun name => name != "..")

/-- The path with another name at its end, in place of its own if it has one. -/
def withFileName (name : String) (path : FilePath) : FilePath :=
  { parts := (if path.fileName?.isSome then path.parts.dropLast else path.parts) ++ [name]
    directoryOnly := false }

end FilePath

structure FileTree where
  nodes : List (Location × FileNode)

namespace FileTree

def empty : FileTree := { nodes := [] }

/-- What stands at a place, if anything does.  The top is a directory. -/
def node? (tree : FileTree) (place : Location) : Option FileNode :=
  if place.isEmpty then some .directory else List.lookup place tree.nodes

def remove (place : Location) (tree : FileTree) : FileTree :=
  { nodes := tree.nodes.filter (fun entry => entry.1 != place) }

/-- Puts a node in a place, instead of what stands there. -/
def put (place : Location) (node : FileNode) (tree : FileTree) : FileTree :=
  { nodes := (place, node) :: (tree.remove place).nodes }

/-- The place that one part leads to.  The top has nothing above it. -/
def stepTo (place : Location) (part : String) : Location :=
  if part = ".." then place.dropLast else place ++ [part]

/-- Follows parts from a place; whatever is left for a next part must be a
directory. -/
def follow (tree : FileTree) : Location → List String → Except FileError Location
  | place, [] => .ok place
  | place, part :: parts =>
    match tree.node? place with
    | none => .error .noEntry
    | some (.file _) => .error .notDirectory
    | some .directory => tree.follow (stepTo place part) parts

/-- The place that a path leads to, whether or not anything stands there. -/
def resolve (tree : FileTree) (path : FilePath) : Except FileError Location :=
  if path.parts.isEmpty && !path.directoryOnly then .error .noEntry
  else tree.follow [] path.parts

/-- The place that a path leads to and what stands there. -/
def find (tree : FileTree) (path : FilePath) : Except FileError (Location × FileNode) := do
  let place ← tree.resolve path
  match tree.node? place with
  | none => throw .noEntry
  | some (.file bytes) =>
    if path.directoryOnly then throw .notDirectory else return (place, .file bytes)
  | some .directory => return (place, .directory)

def exists? (tree : FileTree) (path : FilePath) : Bool :=
  (tree.find path).toOption.isSome

def isDirectory (tree : FileTree) (path : FilePath) : Bool :=
  match tree.find path with
  | .ok (_, .directory) => true
  | _ => false

def readBytes (tree : FileTree) (path : FilePath) : Except FileError ByteArray := do
  match ← tree.find path with
  | (_, .file bytes) => return bytes
  | (_, .directory) => throw .isDirectory

def readText (tree : FileTree) (path : FilePath) : Except FileError String := do
  match String.fromUTF8? (← tree.readBytes path) with
  | some text => return text
  | none => throw .notText

/-- Where a file can be opened to write it. -/
def openFile (refusals : Refusals) (path : FilePath) (tree : FileTree) :
    Except FileError Location := do
  Refusals.check refusals.opening
  let place ← tree.resolve path
  if path.directoryOnly || tree.node? place = some .directory then throw .isDirectory
  else return place

/-- Writes a file, over the one that stands there if one does.  Once it is open
nothing is left of what was in it. -/
def writeBytesUnder (refusals : Refusals) (path : FilePath) (bytes : ByteArray)
    (tree : FileTree) : Except FileError Unit × FileTree :=
  match tree.openFile refusals path with
  | .error error => (.error error, tree)
  | .ok place =>
    let (answer, taken) := refusals.take bytes
    (answer, tree.put place (.file taken))

/-- The tree with a file written, if that is not refused. -/
def writeBytes (path : FilePath) (bytes : ByteArray) (tree : FileTree) :
    Except FileError FileTree :=
  match tree.writeBytesUnder .never path bytes with
  | (.error error, _) => .error error
  | (.ok (), after) => .ok after

/-- Makes the directories that parts lead to, as far as they are missing, when
so many have been made before.  A file on the way is nothing to go through; but
where something was missing before it, directories are made one by one, and it
is met in the place of one. -/
def makeDirectoriesUnder (refusals : Refusals) (made : Nat) (place : Location)
    (parts : List String) (tree : FileTree) : Except FileError Unit × FileTree :=
  match parts with
  | [] => (.ok (), tree)
  | part :: parts =>
    let next := stepTo place part
    match tree.node? next with
    | some .directory => makeDirectoriesUnder refusals made next parts tree
    | some (.file _) =>
      (.error (if made = 0 && !parts.isEmpty then .notDirectory else .alreadyExists), tree)
    | none =>
      match refusals.directory made with
      | some reason => (.error (.refused reason), tree)
      | none =>
        makeDirectoriesUnder refusals (made + 1) next parts (tree.put next .directory)

def makeDirectories (place : Location) (parts : List String) (tree : FileTree) :
    Except FileError Unit × FileTree :=
  tree.makeDirectoriesUnder .never 0 place parts

/-- Moves a file to another place, over the file that stands there if one does. -/
def moveFile (refusals : Refusals) (source target : FilePath) (tree : FileTree) :
    Except FileError FileTree := do
  Refusals.check refusals.moving
  match ← tree.find source with
  | (_, .directory) => throw .isDirectory
  | (origin, .file bytes) =>
    let place ← tree.resolve target
    if tree.node? place = some .directory then throw .isDirectory
    else if target.directoryOnly then throw .notDirectory
    else return (tree.remove origin).put place (.file bytes)

def removeFile (refusals : Refusals) (path : FilePath) (tree : FileTree) :
    Except FileError FileTree := do
  Refusals.check refusals.removing
  match ← tree.find path with
  | (_, .directory) => throw .isDirectory
  | (place, .file _) => return tree.remove place

/-- The texts of the paths of all files, in ascending order. -/
def filePaths (tree : FileTree) : List String :=
  let files := tree.nodes.filterMap
    (fun (place, node) => if node = .directory then none else some ("/".intercalate place))
  files.mergeSort (fun left right => decide (left ≤ right))

end FileTree

end SoloJournal
