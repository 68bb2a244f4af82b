import SoloJournal.Card.Basic

/-!
# Prompts and catalogs

A prompt is what the player is asked to write about when its card is drawn,
with the card's effect on the counters.  A catalog says which prompt each card
has, if any.
-/

namespace SoloJournal

/-- The writing prompt of a card and its effects. -/
structure Prompt where
  title : String
  description : String
  /-- What the card adds to the tokens, or takes when it is negative. -/
  tokens : Int64
  /-- How many blocks the card has pulled from the tower. -/
  blocks : UInt32
  deriving DecidableEq

/-- The prompts of a game. -/
structure Catalog where
  prompt? : Card → Option Prompt

namespace Catalog

/-- The catalog of a list of entries, of which the last one for a card wins. -/
def ofEntries (entries : List (Card × Prompt)) : Catalog :=
  { prompt? := fun card => entries.reverse.lookup card }

/-- The cards without a prompt, in authoring order. -/
def missing (catalog : Catalog) : List Card :=
  Card.all.filter (fun card => (catalog.prompt? card).isNone)

/-- How many cards have a prompt. -/
def size (catalog : Catalog) : Nat :=
  Card.all.countP (fun card => (catalog.prompt? card).isSome)

def isEmpty (catalog : Catalog) : Bool :=
  catalog.size == 0

def isComplete (catalog : Catalog) : Bool :=
  catalog.missing.isEmpty

@[ext] theorem ext {left right : Catalog}
    (agree : ∀ card, left.prompt? card = right.prompt? card) : left = right := by
  cases left
  cases right
  simp only [mk.injEq]
  exact funext agree

end Catalog

end SoloJournal
