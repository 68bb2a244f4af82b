import SoloJournal.Authoring.GameDir
import SoloJournal.Chance.Seeded
import SoloJournal.Save.FileSlot
import SoloJournal.Terminal.Arguments
import SoloJournal.Terminal.Table

/-!
# The program

What the program does with its arguments, the files and the lines that are
typed: the lines it writes, its exit code and the files it leaves.  A task
either is done at once or leads to a game at the table.
-/

namespace SoloJournal.Terminal

open Authoring

/-- What the program finds around it. -/
structure Surroundings where
  tree : FileTree
  /-- The file for saved games that the environment names. -/
  saveFile : Option String
  home : Option String
  /-- Whether lines are written to a terminal. -/
  terminal : Bool
  /-- The seed of a game for which none is given. -/
  entropy : UInt64

inductive ProgramError where
  | noGameDir (dir : String)
  | notDirectory (dir : String)
  | notLoaded (error : LoadError)
  /-- A game that was to be played. -/
  | notLoadedFrom (dir : String) (error : LoadError)
  | noSaveFile
  | notDiscarded (error : SaveError)
  /-- A saved game that can be read but does not fit. -/
  | unfitSave (path : String) (error : SaveError)
  | notOpened (error : SessionError)
  | table (error : TableError)
  deriving DecidableEq

namespace ProgramError

/-- An error in words, with its causes after it. -/
def message : ProgramError → String
  | noGameDir dir => "game directory not found: " ++ dir
  | notDirectory dir => "path is not a directory: " ++ dir
  | notLoaded error => error.message
  | notLoadedFrom dir error => "load game from " ++ dir ++ ": " ++ error.message
  | noSaveFile => "save path unavailable; pass --save"
  | notDiscarded error => "discard previous save: " ++ error.message
  | unfitSave path error =>
    error.message ++ "\nthe save at " ++ path
      ++ " cannot be resumed; run again with --fresh to start over"
  | notOpened error => "open save: " ++ error.chain
  | table error => error.message

end ProgramError

/-- What comes of a task before anything is typed. -/
inductive Beginning where
  | done (lines : List String) (result : Except ProgramError UInt32) (tree : FileTree)
  | seated (lines : List String) (setting : Setting) (table : Table Seeded FileSlot)

/-- A game is looked for in a directory. -/
def checkDir (tree : FileTree) (dir : String) : Except ProgramError Unit :=
  let path := FilePath.ofText dir
  if !tree.exists? path then .error (.noGameDir dir)
  else if !tree.isDirectory path then .error (.notDirectory dir)
  else .ok ()

/-! ## Validating -/

/-- The line that says whether a file of a game is there. -/
def fileLine (style : Style) (name : String) (found isOptional : Bool) : String :=
  if found then style.success (name ++ ": Found")
  else if isOptional then style.warning (name ++ ": not found (optional)")
  else style.error (name ++ ": NOT FOUND")

def fileLines (tree : FileTree) (style : Style) (dir : String) : List String :=
  let line (name : String) (isOptional : Bool) :=
    fileLine style name (tree.exists? (.ofText (FilePath.joinText dir name))) isOptional
  [line rulebookFile false, line catalogFile false, line storyFile true]

/-- The lines about what was found wrong. -/
def problemLines (style : Style) (problems : List GameProblem) : List String :=
  if problems.isEmpty then
    [style.success "All validations passed!", "",
      "Game configuration is valid and ready to play!", ""]
  else
    style.error ("Validation failed with " ++ count problems.length ++ " error(s):")
      :: problems.map (fun problem => style.bullet problem.message)

/-- Validates a game; the exit code says whether anything is wrong. -/
def validateTask (tree : FileTree) (style : Style) (dir : String) :
    List String × UInt32 :=
  let problems := validateGame tree dir
  (["", style.bold "Validating game:" ++ " " ++ dir, "",
      style.info "Checking for required files..."]
    ++ fileLines tree style dir ++ ["", style.bold "Validating content..."]
    ++ problemLines style problems,
    if problems.isEmpty then 0 else 1)

/-! ## Describing -/

/-- Describes a game, of which the catalog may have gaps. -/
def infoTask (tree : FileTree) (style : Style) (dir : String) (json : Bool) :
    Except ProgramError (List String) := do
  let rules ← (loadRulebook tree dir).mapError .notLoaded
  let catalog ← (loadPartialCatalog tree dir).mapError .notLoaded
  let summary := Summary.ofParts rules catalog
  if json then return [summary.toJson.indented]
  else return [""] ++ summaryLines style summary ++ [""]

/-! ## Playing -/

/-- The file for saved games: the one of the options, that of the environment,
or the standard one at home. -/
def savePath? (around : Surroundings) (options : PlayOptions) : Option String :=
  options.save <|> around.saveFile
    <|> around.home.map (fun home => FilePath.joinText home ".wretched_save.json")

/-- The slot for saved games, emptied for a fresh start. -/
def prepareSlot (tree : FileTree) (path : String) (fresh : Bool) :
    Except SaveError Unit × FileSlot :=
  let slot : FileSlot := { path := .ofText path, tree }
  if fresh then slot.clear else (.ok (), slot)

/-- Why a game is not played whose slot could not be opened. -/
def openingError (path : String) : SessionError → ProgramError
  | .save (.repeatedCard card) => .unfitSave path (.repeatedCard card)
  | .save (.impossibleTurn turn) => .unfitSave path (.impossibleTurn turn)
  | .save (.otherContent saved current) => .unfitSave path (.otherContent saved current)
  | other => .notOpened other

/-- The introduction, which is shown before the first card of a game. -/
def storyLines (story : Option String) (game : Game Seeded) : List String :=
  match story with
  | some story =>
    if game.history.cards.isEmpty && game.pending.isNone then [Text.trim story, ""] else []
  | none => []

/-- Opens the slot and sits down at the table. -/
def openTable (style : Style) (game : LoadedGame) (path : String) (slot : FileSlot)
    (source : Seeded) : Beginning :=
  let info := game.content.rules.game
  let heading := ["", style.bold (info.title ++ " by " ++ info.author), ""]
  let opened := Session.resumeOrStart game.content slot source
  match opened.answer with
  | .error error => .done heading (.error (openingError path error)) opened.after.tree
  | .ok session =>
    .seated (heading ++ storyLines game.story session.game)
      { story := game.story, style }
      { Table.opened session none with pending := opened.events }

def beginPlay (around : Surroundings) (style : Style) (options : PlayOptions) : Beginning :=
  let stop (error : ProgramError) (tree : FileTree) : Beginning := .done [] (.error error) tree
  match loadGame around.tree options.gameDir with
  | .error error => stop (.notLoadedFrom options.gameDir error) around.tree
  | .ok game =>
    match savePath? around options with
    | none => stop .noSaveFile around.tree
    | some path =>
      match prepareSlot around.tree path options.fresh with
      | (.error error, slot) => stop (.notDiscarded error) slot.tree
      | (.ok (), slot) =>
        openTable style game path slot (.ofSeed (options.seed.getD around.entropy))

/-! ## Tasks -/

/-- Does a task, as far as nothing has to be typed. -/
def begin (around : Surroundings) (style : Style) (task : Task) : Beginning :=
  let inDir (dir : String) (go : Beginning) : Beginning :=
    match checkDir around.tree dir with
    | .ok () => go
    | .error error => .done [] (.error error) around.tree
  match task with
  | .help => .done [usage] (.ok 0) around.tree
  | .validate dir =>
    let (lines, code) := validateTask around.tree style dir
    inDir dir (.done lines (.ok code) around.tree)
  | .info dir json =>
    inDir dir
      (match infoTask around.tree style dir json with
      | .ok lines => .done lines (.ok 0) around.tree
      | .error error => .done [] (.error error) around.tree)
  | .play options => inDir options.gameDir (beginPlay around style options)

/-- What the program leaves when it ends. -/
structure Exit where
  code : UInt32
  out : String
  err : String
  tree : FileTree

def linesText (lines : List String) : String :=
  String.join (lines.map (fun line => line ++ "\n"))

/-- The exit code of a result, and the line about its error. -/
def resultLines (style : Style) : Except ProgramError UInt32 → UInt32 × List String
  | .ok code => (code, [])
  | .error error => (1, [style.error error.message])

/-- The text about a wrong use of the program. -/
def usageText (error : UsageError) : String :=
  linesText [error.message, "", usage]

def styleOf (around : Surroundings) (options : GlobalOptions) : Style :=
  { color := !options.noColor && around.terminal }

/-- Plays a game at the table to its end. -/
def playOut (lines : List String) (setting : Setting) (table : Table Seeded FileSlot)
    (typed : List (Moments × Option String)) : Exit :=
  let (result, table) := table.play setting typed
  let (code, last) :=
    resultLines setting.style ((result.mapError .table).map (fun _ => 0))
  let session := table.session
  { code
    out := linesText lines
      ++ transcriptText session.game.content.catalog table.transcript ++ linesText last
    err := "", tree := session.slot.tree }

/-- Runs the program with everything that will be typed. -/
def runProgram (around : Surroundings) (args : List String)
    (typed : List (Moments × Option String)) : Exit :=
  match readArguments args with
  | .error error => { code := 2, out := "", err := usageText error, tree := around.tree }
  | .ok (options, task) =>
    let style := styleOf around options
    match begin around style task with
    | .done lines result tree =>
      let (code, last) := resultLines style result
      { code, out := linesText (lines ++ last), err := "", tree }
    | .seated lines setting table => playOut lines setting table typed

end SoloJournal.Terminal
