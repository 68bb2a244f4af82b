import SoloJournal.Number.Decimal

/-!
# Arguments of the program

The first argument that is not a global option names what to do; the others
are its options.  Global options may stand anywhere.
-/

namespace SoloJournal.Terminal

structure GlobalOptions where
  noColor : Bool
  debug : Bool
  deriving DecidableEq

structure PlayOptions where
  gameDir : String
  save : Option String
  seed : Option UInt64
  fresh : Bool
  deriving DecidableEq

/-- What the program is asked to do. -/
inductive Task where
  | validate (gameDir : String)
  | info (gameDir : String) (json : Bool)
  | play (options : PlayOptions)
  | help
  deriving DecidableEq

inductive UsageError where
  | unknownCommand (name : String)
  | missingGameDir
  | saveNeedsPath
  | seedNeedsNumber
  | invalidSeed (text : String)
  | unknownOption (name : String)
  deriving DecidableEq

namespace UsageError

def message : UsageError → String
  | unknownCommand name => "unknown command '" ++ name ++ "'"
  | missingGameDir => "missing <game_dir>"
  | saveNeedsPath => "--save needs a path"
  | seedNeedsNumber => "--seed needs a number"
  | invalidSeed text => "invalid seed '" ++ text ++ "'"
  | unknownOption name => "unknown option '" ++ name ++ "'"

end UsageError

/-- The seed that a text spells: decimal digits after an optional plus. -/
def seed? (text : String) : Option UInt64 := do
  let value ← Decimal.positiveOf? text.toList
  if value < UInt64.size then some (UInt64.ofNat value) else none

/-- The options of play read so far. -/
structure PlayDraft where
  gameDir : Option String
  save : Option String
  seed : Option UInt64
  fresh : Bool

namespace PlayDraft

def empty : PlayDraft := { gameDir := none, save := none, seed := none, fresh := false }

/-- Reads the remaining arguments; of several values for an option the last
one holds. -/
def read (draft : PlayDraft) : List String → Except UsageError PlayDraft
  | [] => .ok draft
  | arg :: rest =>
    if arg = "--save" ∨ arg = "-s" then
      match rest with
      | path :: rest => read { draft with save := some path } rest
      | [] => .error .saveNeedsPath
    else if arg = "--seed" then
      match rest with
      | number :: rest =>
        match seed? number with
        | some seed => read { draft with seed := some seed } rest
        | none => .error (.invalidSeed number)
      | [] => .error .seedNeedsNumber
    else if arg = "--fresh" then read { draft with fresh := true } rest
    else if arg.startsWith "-" then .error (.unknownOption arg)
    else read { draft with gameDir := some arg } rest

end PlayDraft

namespace Task

def readPlay (args : List String) : Except UsageError PlayOptions := do
  let draft ← PlayDraft.empty.read args
  match draft.gameDir with
  | some gameDir =>
    return { gameDir, save := draft.save, seed := draft.seed, fresh := draft.fresh }
  | none => throw .missingGameDir

/-- The first argument that is no long option. -/
def readGameDir (args : List String) : Except UsageError String :=
  match args.find? (fun arg => !arg.startsWith "--") with
  | some gameDir => .ok gameDir
  | none => .error .missingGameDir

def read : List String → Except UsageError Task
  | [] => .ok help
  | name :: args =>
    match name with
    | "validate" => (readGameDir args).map validate
    | "info" => (readGameDir args).map (fun gameDir => info gameDir (args.contains "--json"))
    | "play" => (readPlay args).map play
    | "help" | "--help" | "-h" => .ok help
    | other => .error (.unknownCommand other)

end Task

def isGlobalOption (arg : String) : Bool :=
  arg == "--no-color" || arg == "--debug"

/-- Reads all arguments of the program. -/
def readArguments (args : List String) : Except UsageError (GlobalOptions × Task) := do
  let task ← Task.read (args.filter (fun arg => !isGlobalOption arg))
  return ({ noColor := args.contains "--no-color", debug := args.contains "--debug" }, task)

/-- How the program is used. -/
def usage : String :=
  "wretched - solitaire journaling games from YAML

usage:
  wretched [--no-color] [--debug] <command> ...

commands:
  validate <game_dir>                          check config.yaml and cards.yaml
  info <game_dir> [--json]                     show game metadata and mechanics
  play <game_dir> [--save PATH] [--seed N] [--fresh]
                                               play in the terminal

environment:
  WRETCHED_SAVE   save file (default ~/.wretched_save.json)
  WRETCHED_LOG    log filter, e.g. debug or wretched::tower=trace"

end SoloJournal.Terminal
