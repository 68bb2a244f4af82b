import SoloJournal.Authoring.Records

/-!
# Checking a rulebook

A rulebook is read in three steps: its parts must be there, they must have the
right types, and its numbers must make a playable game.  The problems of one
step are reported together.
-/

namespace SoloJournal.Authoring

inductive RulebookProblem where
  | notMapping
  | missingPart (name : String)
  | missingInfo (name : String)
  | mistyped (mismatch : Mismatch)
  | thresholdOrder (thresholds : Thresholds)
  | noTokens
  | noStability
  deriving DecidableEq

namespace RulebookProblem

def message : RulebookProblem → String
  | notMapping => "Config must be a mapping"
  | missingPart name => "Missing required config field: " ++ name
  | missingInfo name => "Missing required game field: " ++ name
  | mistyped mismatch => "Invalid config: " ++ mismatch.message
  | thresholdOrder thresholds =>
    "Stability danger threshold (" ++ Decimal.natText thresholds.danger.toNat
      ++ ") must be greater than critical (" ++ Decimal.natText thresholds.critical.toNat ++ ")"
  | noTokens => "Initial tokens must be greater than 0"
  | noStability => "Initial stability must be greater than 0"

end RulebookProblem

/-- The names among some that a value has no entry for. -/
def absentFrom (value : Yaml.Value) (names : List String) : List String :=
  names.filter (fun name => (value.get? name).isNone)

/-- The parts that are missing.  A user interface may be described too; it does
not matter here. -/
def missingParts (value : Yaml.Value) : List RulebookProblem :=
  (absentFrom value ["game", "mechanics", "conditions"]).map .missingPart
    ++ (match value.get? "game" with
      | some game => (absentFrom game ["title", "author"]).map .missingInfo
      | none => [])

/-- What keeps the numbers of a rulebook from making a playable game. -/
def numberProblems (rules : Rulebook) : List RulebookProblem :=
  (if rules.thresholds.danger ≤ rules.thresholds.critical then
      [.thresholdOrder rules.thresholds]
    else [])
  ++ (if rules.mechanics.tokens.initial ≤ 0 then [.noTokens] else [])
  ++ (if rules.mechanics.stability.initial = 0 then [.noStability] else [])

/-- Reads a rulebook, or says what is wrong with it. -/
def checkRulebook (value : Yaml.Value) : Except (List RulebookProblem) Rulebook := do
  if !value.isMapping then throw [.notMapping]
  let missing := missingParts value
  if !missing.isEmpty then throw missing
  let rules ← (readRulebook value).mapError (fun mismatch => [.mistyped mismatch])
  let problems := numberProblems rules
  if !problems.isEmpty then throw problems
  return rules

end SoloJournal.Authoring
