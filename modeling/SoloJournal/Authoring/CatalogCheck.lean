import SoloJournal.Authoring.Records

/-!
# Checking a catalog

A catalog is written as a mapping of suits to mappings of ranks to cards.  Keys
may be texts in any letter case or whole numbers.  Every card that can be read
is taken, and everything else is reported: suits and ranks that are unknown or
missing, and what is wrong with a card.
-/

namespace SoloJournal.Authoring

/-- What is wrong with what is written for one card. -/
inductive CardProblem where
  | notMapping
  | missingField (name : String)
  | tokensNotWhole
  | blocksNotNatural
  | mistyped (mismatch : Mismatch)
  deriving DecidableEq

namespace CardProblem

def message (card : Card) : CardProblem → String
  | notMapping => "Invalid card data for " ++ card.text
  | missingField name => "Card " ++ card.text ++ " missing required field: " ++ name
  | tokensNotWhole => "Card " ++ card.text ++ " has non-integer tokens"
  | blocksNotNatural => "Card " ++ card.text ++ " blocks must be a non-negative integer"
  | mistyped mismatch => "Invalid card data for " ++ card.text ++ ": " ++ mismatch.message

end CardProblem

inductive CatalogProblem where
  | notMapping
  | unknownSuit (key : String)
  | suitKeyNotText
  | missingSuit (suit : Suit)
  | unknownRank (key : String) (suit : Suit)
  | missingCard (card : Card)
  | badCard (card : Card) (problem : CardProblem)
  deriving DecidableEq

namespace CatalogProblem

def message : CatalogProblem → String
  | notMapping => "Cards must be a mapping of suits"
  | unknownSuit key => "Unknown suit: " ++ key
  | suitKeyNotText => "Suit keys must be strings"
  | missingSuit suit => "Missing suit: " ++ suit.key
  | unknownRank key suit => "Unknown card: " ++ key ++ " of " ++ suit.key
  | missingCard card => "Missing card: " ++ card.text
  | badCard card problem => problem.message card

end CatalogProblem

/-! ## Keys -/

/-- The text of a whole or other number as a key. -/
def keyText? : Yaml.Value → Option String
  | .string text => some text
  | .int number => some (Decimal.intText number)
  | .float number => some number.documentText
  | _ => none

/-- Whether a key spells a name, up to letter case and blanks around it. -/
def spells (name : String) (key : Yaml.Value) : Bool :=
  (keyText? key).any (fun text => Text.sameIgnoringCase (Text.trim text) name)

/-- The first entry of a mapping whose key spells a name. -/
def lookup? (name : String) (value : Yaml.Value) : Option Yaml.Value := do
  let entries ← value.entries?
  let entry ← entries.find? (fun entry => spells name entry.1)
  return entry.2

/-! ## Cards -/

/-- Whether a value is a whole number that tokens can count. -/
def isTokenCount (value : Yaml.Value) : Bool :=
  value.int?.any
    (fun number => Int64.minValue.toInt ≤ number && number ≤ Int64.maxValue.toInt)

/-- Whether a value is a number of blocks. -/
def isBlockCount (value : Yaml.Value) : Bool :=
  value.int?.any (fun number : Int => 0 ≤ number && number < UInt32.size)

/-- What is wrong with a card before its parts are read. -/
def cardProblems (value : Yaml.Value) : List CardProblem :=
  ((["title", "description"].filter (fun name => (value.get? name).isNone)).map .missingField)
    ++ (if (value.get? "tokens").all isTokenCount then [] else [.tokensNotWhole])
    ++ (if (value.get? "blocks").all isBlockCount then [] else [.blocksNotNatural])

/-- Reads what is written for a card. -/
def checkCard (value : Yaml.Value) : Except (List CardProblem) Prompt := do
  if !value.isMapping then throw [.notMapping]
  let problems := cardProblems value
  if !problems.isEmpty then throw problems
  (readPrompt value).mapError (fun mismatch => [.mistyped mismatch])

/-! ## Suits -/

/-- The cards that could be read, with what is wrong with the others. -/
structure Reviewed where
  entries : List (Card × Prompt)
  problems : List CatalogProblem

namespace Reviewed

def ofProblems (problems : List CatalogProblem) : Reviewed :=
  { entries := [], problems }

/-- One review after another. -/
def join (reviews : List Reviewed) : Reviewed :=
  { entries := reviews.flatMap entries, problems := reviews.flatMap problems }

end Reviewed

/-- The keys of a suit that are no ranks; a key that is neither a text nor a
number has no name. -/
def unknownRanks (suit : Suit) (ranks : Yaml.Value) : List CatalogProblem :=
  (ranks.entries?.getD []).filterMap fun (key, _) =>
    let text := (keyText? key).getD ""
    if (Rank.ofKey? text).isSome then none else some (.unknownRank text suit)

def reviewCard (suit : Suit) (ranks : Yaml.Value) (rank : Rank) : Reviewed :=
  let card : Card := { suit, rank }
  match lookup? rank.key ranks with
  | none => .ofProblems [.missingCard card]
  | some value =>
    match checkCard value with
    | .ok prompt => { entries := [(card, prompt)], problems := [] }
    | .error problems => .ofProblems (problems.map (.badCard card))

def reviewSuit (suits : Yaml.Value) (suit : Suit) : Reviewed :=
  match lookup? suit.key suits with
  | none => .ofProblems [.missingSuit suit]
  | some ranks =>
    .join (.ofProblems (unknownRanks suit ranks) :: Rank.all.map (reviewCard suit ranks))

/-- The keys that are no suits. -/
def unknownSuits (entries : List (Yaml.Value × Yaml.Value)) : List CatalogProblem :=
  entries.filterMap fun (key, _) =>
    match keyText? key with
    | some text => if (Suit.ofKey? text).isSome then none else some (.unknownSuit text)
    | none => some .suitKeyNotText

/-- Reviews everything that is written for a catalog. -/
def reviewCatalog (value : Yaml.Value) : Reviewed :=
  match value.entries? with
  | none => .ofProblems [.notMapping]
  | some entries =>
    .join (.ofProblems (unknownSuits entries) :: Suit.all.map (reviewSuit value))

/-- The catalog of the cards that could be read, and what is wrong. -/
def checkCatalog (value : Yaml.Value) : Catalog × List CatalogProblem :=
  let reviewed := reviewCatalog value
  (.ofEntries reviewed.entries, reviewed.problems)

end SoloJournal.Authoring
