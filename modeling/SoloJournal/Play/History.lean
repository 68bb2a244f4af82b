import SoloJournal.Card.Basic

/-!
# The history

The cards applied last, the latest first.  A history never holds more than ten
cards: older ones are forgotten.
-/

namespace SoloJournal

structure History where
  cards : List Card
  length_le : cards.length ≤ 10
  deriving DecidableEq

namespace History

/-- How many cards a history remembers. -/
def limit : Nat := 10

/-- The first ten of the given cards. -/
def ofList (cards : List Card) : History :=
  { cards := cards.take limit
    length_le := by simp only [List.length_take, limit]; omega }

def empty : History := ofList []

/-- Remembers a card as the latest. -/
def push (card : Card) (history : History) : History :=
  ofList (card :: history.cards)

def latest? (history : History) : Option Card :=
  history.cards.head?

@[ext] theorem ext {left right : History} (same : left.cards = right.cards) :
    left = right := by
  cases left
  cases right
  simpa using same

theorem ofList_cards (history : History) : ofList history.cards = history :=
  History.ext (List.take_of_length_le history.length_le)

end History

end SoloJournal
