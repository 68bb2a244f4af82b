import SoloJournal.Card.Catalog
import SoloJournal.Rules.Rulebook
import SoloJournal.Wire.Rules

/-!
# Summaries

What there is to say about a game before it is played: its name, its numbers
and how many of its cards are written.
-/

namespace SoloJournal

structure Summary where
  title : String
  subtitle : Option String
  author : String
  version : Option String
  description : Option String
  systems : List String
  tokensName : String
  tokensInitial : Int64
  stabilityName : String
  stabilityInitial : UInt32
  danger : UInt32
  critical : UInt32
  reshuffle : Bool
  cardsDefined : Nat
  cardsExpected : Nat
  deriving DecidableEq

namespace Summary

def ofParts (rules : Rulebook) (catalog : Catalog) : Summary :=
  { title := rules.game.title
    subtitle := rules.game.subtitle
    author := rules.game.author
    version := rules.game.version
    description := rules.game.description
    systems := rules.mechanics.systems
    tokensName := rules.mechanics.tokens.name
    tokensInitial := rules.mechanics.tokens.initial
    stabilityName := rules.mechanics.stability.name
    stabilityInitial := rules.mechanics.stability.initial
    danger := rules.mechanics.stability.thresholds.danger
    critical := rules.mechanics.stability.thresholds.critical
    reshuffle := rules.mechanics.deck.reshuffle
    cardsDefined := catalog.size
    cardsExpected := Card.all.length }

/-- Whether every expected card is written. -/
def isComplete (summary : Summary) : Bool :=
  summary.cardsDefined == summary.cardsExpected

/-- The wire form of a summary, which is only ever written. -/
def toJson (summary : Summary) : Json :=
  .record
    [("title", .string summary.title), ("subtitle", Wire.write summary.subtitle),
      ("author", .string summary.author), ("version", Wire.write summary.version),
      ("description", Wire.write summary.description),
      ("systems", Wire.write summary.systems), ("tokens_name", .string summary.tokensName),
      ("tokens_initial", Wire.write summary.tokensInitial),
      ("stability_name", .string summary.stabilityName),
      ("stability_initial", Wire.write summary.stabilityInitial),
      ("danger", Wire.write summary.danger), ("critical", Wire.write summary.critical),
      ("reshuffle", .bool summary.reshuffle),
      ("cards_defined", Wire.write summary.cardsDefined),
      ("cards_expected", Wire.write summary.cardsExpected)]

end Summary

end SoloJournal
