import SoloJournal.Terminal.Program

/-!
# The command line

Reads the arguments, the environment, the files of a game and the lines that
are typed, and writes the lines and files that the program leaves.
-/

namespace SoloJournal.CommandLine

open Terminal

/-- Copies what stands at a path into a tree. -/
def copyIn (tree : FileTree) (text : String) : IO FileTree := do
  let path := FilePath.ofText text
  match ← (IO.FS.readBinFile text).toBaseIO with
  | .ok bytes =>
    let tree := (tree.makeDirectories [] path.parts.dropLast).2
    return (tree.writeBytes path bytes).toOption.getD tree
  | .error _ =>
    let isDirectory ← try (← IO.FS.realPath text).isDir catch _ => pure false
    return if isDirectory then (tree.makeDirectories [] path.parts).2 else tree

/-- Makes the directories that a path leads through. -/
def makeParents (text : String) : IO Unit := do
  let parent := "/".intercalate (text.splitOn "/").dropLast
  if !parent.isEmpty then IO.FS.createDirAll parent

/-- Copies the file at a path out of a tree, if it has changed there. -/
def copyOut (text : String) (before after : FileTree) : IO Unit := do
  let path := FilePath.ofText text
  let old := (before.readBytes path).toOption
  let new := (after.readBytes path).toOption
  if old != new then
    match new with
    | some bytes =>
      makeParents text
      IO.FS.writeBinFile (text ++ ".tmp") bytes
      IO.FS.rename (text ++ ".tmp") text
    | none => IO.FS.removeFile text

/-- The paths that a task looks at. -/
def pathsOf (around : Surroundings) : Task → List String
  | .help => []
  | .validate dir => inDir dir
  | .info dir _ => inDir dir
  | .play options => inDir options.gameDir ++ (savePath? around options).toList
where
  inDir (dir : String) : List String :=
    dir :: [Authoring.rulebookFile, Authoring.catalogFile, Authoring.storyFile].map
      (FilePath.joinText dir)

/-- What is around the program, with the files that a task looks at. -/
def surroundings (task : Task) : IO Surroundings := do
  let random ← IO.getRandomBytes 8
  let around : Surroundings :=
    { tree := .empty
      saveFile := ← IO.getEnv "WRETCHED_SAVE"
      home := ← IO.getEnv "HOME"
      terminal := ← (← IO.getStdout).isTty
      entropy := random.toList.foldl (fun seed byte => seed * 256 + byte.toUInt64) 0 }
  let tree ← (pathsOf around task).foldlM copyIn around.tree
  return { around with tree }

/-- Writes what has been added to a transcript. -/
def showTable (table : Table Seeded FileSlot) : IO (Table Seeded FileSlot) := do
  let screen ← IO.getStdout
  screen.putStr (transcriptText table.session.game.content.catalog table.transcript)
  screen.flush
  return { table with transcript := [] }

/-- Writes what a step at the table has led to. -/
def settle {α : Type} (path : String) (before : FileTree)
    (after : Except TableError α × Table Seeded FileSlot) :
    IO (Except TableError α × Table Seeded FileSlot) := do
  copyOut path before after.2.session.slot.tree
  return (after.1, ← showTable after.2)

/-- The next line that is typed; nothing at the end. -/
def nextLine : IO (Option (Option String)) := do
  match ← (← IO.getStdin).getLine.toBaseIO with
  | .ok "" => return none
  | .ok line => return (Text.inputLines line.toUTF8).head?
  | .error _ => return some none

/-- Sits at the table until it is left. -/
partial def sit (path : String) (setting : Setting) (table : Table Seeded FileSlot) :
    IO (Except TableError Unit) := do
  let before := table.session.slot.tree
  match ← nextLine with
  | none => return (← settle path before (table.leave setting)).1
  | some line =>
    let now ← IO.monoMsNow
    match ← settle path before (table.takeLine setting { edit := now, flush := now } line) with
    | (.ok true, table) => sit path setting table
    | (.ok false, table) =>
      return (← settle path table.session.slot.tree (table.leave setting)).1
    | (.error error, _) => return .error error

/-- Ends the program with the line about its error, if there is one. -/
def finish (style : Style) (result : Except ProgramError UInt32) : IO UInt32 := do
  let (code, lines) := resultLines style result
  IO.print (linesText lines)
  return code

/-- Does a task. -/
def perform (options : GlobalOptions) (task : Task) : IO UInt32 := do
  let around ← surroundings task
  let style := styleOf around options
  let path := match task with
    | .play options => (savePath? around options).getD ""
    | _ => ""
  match begin around style task with
  | .done lines result tree =>
    copyOut path around.tree tree
    IO.print (linesText lines)
    finish style result
  | .seated lines setting table =>
    copyOut path around.tree table.session.slot.tree
    IO.print (linesText lines)
    let result ← match ← settle path table.session.slot.tree (table.greet setting) with
      | (.ok (), table) => sit path setting table
      | (.error error, _) => pure (.error error)
    finish style ((result.mapError .table).map (fun _ => 0))

/-- Runs the program with its arguments. -/
def run (args : List String) : IO UInt32 := do
  match readArguments args with
  | .error error =>
    IO.eprint (usageText error)
    return 2
  | .ok (options, task) => perform options task

end SoloJournal.CommandLine

/-- The program. -/
def main (args : List String) : IO UInt32 :=
  SoloJournal.CommandLine.run args
