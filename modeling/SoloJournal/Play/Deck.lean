import SoloJournal.Card.Basic
import SoloJournal.Chance.Shuffle

/-!
# The deck

The undrawn cards of one life of the deck.  A deck is written down from its
bottom to its top; the pile that cards are drawn from is held the other way
round, the top first.
-/

namespace SoloJournal

structure Deck where
  /-- The undrawn cards, the top first. -/
  pile : List Card
  deriving DecidableEq

/-- A drawn card, and whether the deck was dealt again for it. -/
structure Draw where
  card : Card
  reshuffled : Bool
  deriving DecidableEq

namespace Deck

universe u

variable {source : Type u} [RandomSource source]

def empty : Deck := { pile := [] }

/-- The deck whose cards are given from the bottom to the top. -/
def ofOrder (cards : List Card) : Deck :=
  { pile := cards.reverse }

/-- The cards from the bottom to the top. -/
def order (deck : Deck) : List Card :=
  deck.pile.reverse

/-- All cards in authoring order, the last of them on top. -/
def standard : Deck := ofOrder Card.all

def shuffled (deck : Deck) (state : source) : Deck × source :=
  let (cards, state) := shuffle deck.order state
  (ofOrder cards, state)

/-- All cards, shuffled. -/
def dealt (state : source) : Deck × source :=
  standard.shuffled state

def remaining (deck : Deck) : Nat :=
  deck.pile.length

def isEmpty (deck : Deck) : Bool :=
  deck.pile.isEmpty

def top? (deck : Deck) : Option Card :=
  deck.pile.head?

/-- Takes the top card.  An empty deck is dealt again first when `reshuffle`
is set; otherwise there is nothing to draw. -/
def draw? (reshuffle : Bool) (deck : Deck) (state : source) :
    Option (Draw × Deck × source) :=
  match deck.pile with
  | card :: pile => some ({ card, reshuffled := false }, { pile }, state)
  | [] =>
    if reshuffle then
      match dealt state with
      | ({ pile := card :: pile }, state) => some ({ card, reshuffled := true }, { pile }, state)
      | ({ pile := [] }, _) => none
    else none

@[simp] theorem order_ofOrder (cards : List Card) : (ofOrder cards).order = cards := by
  simp [order, ofOrder]

@[simp] theorem ofOrder_order (deck : Deck) : ofOrder deck.order = deck := by
  simp [order, ofOrder]

end Deck

end SoloJournal
