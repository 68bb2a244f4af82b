import SoloJournal.Text.Blank

/-!
# Cards

The fifty-two cards of four suits with thirteen ranks each.  Suits and ranks
are spelled by keys; reading a key ignores letter case and the blanks around
it.
-/

namespace SoloJournal

inductive Suit where
  | spades
  | hearts
  | diamonds
  | clubs
  deriving DecidableEq, Repr

namespace Suit

/-- The suits in authoring order. -/
def all : List Suit := [spades, hearts, diamonds, clubs]

def key : Suit → String
  | spades => "spades"
  | hearts => "hearts"
  | diamonds => "diamonds"
  | clubs => "clubs"

def symbol : Suit → Char
  | spades => '♠'
  | hearts => '♥'
  | diamonds => '♦'
  | clubs => '♣'

def isRed : Suit → Bool
  | spades => false
  | hearts => true
  | diamonds => true
  | clubs => false

/-- The letter of the suit in a card code. -/
def letter : Suit → Char
  | spades => 'S'
  | hearts => 'H'
  | diamonds => 'D'
  | clubs => 'C'

/-- The suit spelled by a text. -/
def ofKey? (text : String) : Option Suit :=
  all.find? (fun suit => Text.sameIgnoringCase suit.key (Text.trim text))

@[simp] theorem mem_all (suit : Suit) : suit ∈ all := by
  cases suit <;> simp [all]

end Suit

inductive Rank where
  | ace
  | king
  | queen
  | jack
  | ten
  | nine
  | eight
  | seven
  | six
  | five
  | four
  | three
  | two
  deriving DecidableEq, Repr

namespace Rank

/-- The ranks in authoring order: the ace first, then down to the two. -/
def all : List Rank :=
  [ace, king, queen, jack, ten, nine, eight, seven, six, five, four, three, two]

def key : Rank → String
  | ace => "A"
  | king => "K"
  | queen => "Q"
  | jack => "J"
  | ten => "10"
  | nine => "9"
  | eight => "8"
  | seven => "7"
  | six => "6"
  | five => "5"
  | four => "4"
  | three => "3"
  | two => "2"

/-- The rank spelled by a text. -/
def ofKey? (text : String) : Option Rank :=
  all.find? (fun rank => Text.sameIgnoringCase rank.key (Text.trim text))

@[simp] theorem mem_all (rank : Rank) : rank ∈ all := by
  cases rank <;> simp [all]

end Rank

structure Card where
  suit : Suit
  rank : Rank
  deriving DecidableEq, Repr

namespace Card

/-- Every card once, suit by suit in authoring order. -/
def all : List Card :=
  Suit.all.flatMap (fun suit => Rank.all.map (fun rank => { suit, rank }))

/-- The card in words, such as `10 of hearts`. -/
def text (card : Card) : String :=
  card.rank.key ++ " of " ++ card.suit.key

/-- The short label of a card: its rank and the symbol of its suit. -/
def label (card : Card) : String :=
  card.rank.key.push card.suit.symbol

/-- The code of a card: its rank and the letter of its suit. -/
def code (card : Card) : String :=
  card.rank.key.push card.suit.letter

/-- The card with exactly the given code. -/
def ofCode? (text : String) : Option Card :=
  all.find? (fun card => card.code == text)

@[simp] theorem mem_all (card : Card) : card ∈ all := by
  cases card with
  | mk suit rank => simp [all]

theorem nodup_all : all.Nodup := by
  decide

theorem length_all : all.length = 52 := rfl

end Card

end SoloJournal
