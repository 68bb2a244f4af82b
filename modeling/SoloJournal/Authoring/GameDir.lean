import SoloJournal.Authoring.CatalogCheck
import SoloJournal.Authoring.RulebookCheck
import SoloJournal.Files.Tree
import SoloJournal.Rules.Content
import SoloJournal.Yaml.Document

/-!
# Game directories

A game is a directory with a rulebook, a catalog and perhaps an introduction.
It can be loaded exactly when nothing is wrong with the first two and the
introduction, if there is one, can be read.
-/

namespace SoloJournal.Authoring

def rulebookFile : String := "config.yaml"

def catalogFile : String := "cards.yaml"

def storyFile : String := "story.md"

/-- Why a document has no value. -/
inductive DocumentError where
  | unreadable (path : String) (error : FileError)
  | unparsable (path : String)
  deriving DecidableEq

namespace DocumentError

def message : DocumentError → String
  | unreadable path error => "read " ++ path ++ ": " ++ error.message
  | unparsable path => "parse " ++ path ++ ": not a single YAML document"

end DocumentError

/-- The value of the document at a path. -/
def readDocument (tree : FileTree) (path : String) : Except DocumentError Yaml.Value := do
  let text ← (tree.readText (.ofText path)).mapError (.unreadable path)
  match Yaml.parse? text with
  | some value => return value
  | none => throw (.unparsable path)

/-! ## Loading -/

/-- Why a game cannot be loaded. -/
inductive LoadError where
  | document (error : DocumentError)
  | malformedRulebook (path : String) (problems : List RulebookProblem)
  | malformedCatalog (path : String) (problems : List CatalogProblem)
  deriving DecidableEq

namespace LoadError

/-- What is wrong with the content of the document. -/
def problems : LoadError → List String
  | document _ => []
  | malformedRulebook _ problems => problems.map RulebookProblem.message
  | malformedCatalog _ problems => problems.map CatalogProblem.message

def message (error : LoadError) : String :=
  match error with
  | document error => error.message
  | malformedRulebook path _ =>
    "validate " ++ path ++ ": malformed configuration: " ++ "; ".intercalate error.problems
  | malformedCatalog path _ =>
    "validate " ++ path ++ ": malformed card catalog: " ++ "; ".intercalate error.problems

end LoadError

/-- A game that has been loaded. -/
structure LoadedGame where
  content : Content
  story : Option String

def loadRulebook (tree : FileTree) (dir : String) : Except LoadError Rulebook := do
  let path := FilePath.joinText dir rulebookFile
  let value ← (readDocument tree path).mapError .document
  (checkRulebook value).mapError (.malformedRulebook path)

def loadCatalog (tree : FileTree) (dir : String) : Except LoadError Catalog := do
  let path := FilePath.joinText dir catalogFile
  let value ← (readDocument tree path).mapError .document
  let (catalog, problems) := checkCatalog value
  if problems.isEmpty && catalog.isComplete then return catalog
  else throw (.malformedCatalog path problems)

/-- The catalog of the cards that can be read, with its gaps. -/
def loadPartialCatalog (tree : FileTree) (dir : String) : Except LoadError Catalog := do
  let value ← (readDocument tree (FilePath.joinText dir catalogFile)).mapError .document
  return (checkCatalog value).1

/-- The introduction, if there is one. -/
def loadStory (tree : FileTree) (dir : String) : Except LoadError (Option String) := do
  let path := FilePath.joinText dir storyFile
  if tree.exists? (.ofText path) then
    let text ← (tree.readText (.ofText path)).mapError
      (fun error => .document (.unreadable path error))
    return some text
  else return none

def loadGame (tree : FileTree) (dir : String) : Except LoadError LoadedGame := do
  let rules ← loadRulebook tree dir
  let catalog ← loadCatalog tree dir
  let story ← loadStory tree dir
  return { content := .sign rules catalog, story }

/-! ## Validating -/

inductive GameProblem where
  | rulebookDocument (error : DocumentError)
  | rulebook (problem : RulebookProblem)
  | catalogDocument (error : DocumentError)
  | catalog (problem : CatalogProblem)
  deriving DecidableEq

namespace GameProblem

def message : GameProblem → String
  | rulebookDocument error => rulebookFile ++ ": " ++ error.message
  | rulebook problem => problem.message
  | catalogDocument error => catalogFile ++ ": " ++ error.message
  | catalog problem => problem.message

end GameProblem

def rulebookProblems (tree : FileTree) (dir : String) : List GameProblem :=
  match readDocument tree (FilePath.joinText dir rulebookFile) with
  | .error error => [.rulebookDocument error]
  | .ok value =>
    match checkRulebook value with
    | .ok _ => []
    | .error problems => problems.map .rulebook

def catalogProblems (tree : FileTree) (dir : String) : List GameProblem :=
  match readDocument tree (FilePath.joinText dir catalogFile) with
  | .error error => [.catalogDocument error]
  | .ok value => (checkCatalog value).2.map .catalog

/-- Everything that is wrong with the documents of a game, in reading order. -/
def validateGame (tree : FileTree) (dir : String) : List GameProblem :=
  rulebookProblems tree dir ++ catalogProblems tree dir

end SoloJournal.Authoring
