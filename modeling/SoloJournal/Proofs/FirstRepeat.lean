import Mathlib.Data.List.Nodup
import SoloJournal.Proofs.Accounted
import SoloJournal.Proofs.Deal
import SoloJournal.Proofs.Flaws

/-!
# The first card that repeats

The check of a saved game reads the card in hand and then the deck, and stops at
the first card that it has met before.  `FirstRepeat` says by places which card
that is.  A saved game that passes holds every card at most once, so there are
never more of them than there are cards at all.
-/

namespace SoloJournal

theorem TurnDie.isConsistent_iff {turn : TurnDie} :
    turn.isConsistent = true ↔
      1 ≤ turn.rolled ∧ turn.rolled ≤ 6 ∧ turn.remaining ≤ turn.rolled ∧
        0 < turn.number := by
  simp only [isConsistent, Bool.and_eq_true, decide_eq_true_eq, and_assoc]
  exact Iff.rfl

namespace SavedGame

variable {cards : List Card} {place : Nat} {card : Card}

/-- The card at a place of the list stands at an earlier place as well. -/
def RepeatsAt (cards : List Card) (place : Nat) (card : Card) : Prop :=
  cards[place]? = some card ∧ ∃ earlier < place, cards[earlier]? = some card

/-- The card at the smallest place whose card stands at an earlier one. -/
structure FirstRepeat (cards : List Card) (place : Nat) (card : Card) : Prop where
  repeats : RepeatsAt cards place card
  least : ∀ other < place, ∀ card, ¬ RepeatsAt cards other card

/-- The cards before a place all differ just when none of them repeats. -/
theorem nodup_take_iff :
    (cards.take place).Nodup ↔
      ∀ other < place, ∀ card, ¬ RepeatsAt cards other card := by
  rw [List.nodup_iff_getElem?_ne_getElem?]
  constructor
  · rintro differ other before card ⟨found, earlier, order, same⟩
    have within : other < (cards.take place).length := by
      rw [List.length_take]
      exact Nat.lt_min.mpr ⟨before, (List.getElem?_eq_some_iff.mp found).1⟩
    apply differ earlier other order within
    rw [List.getElem?_take_of_lt (order.trans before),
      List.getElem?_take_of_lt before, found, same]
  · intro least earlier later order within same
    obtain ⟨before, inside⟩ := Nat.lt_min.mp (List.length_take ▸ within)
    rw [List.getElem?_take_of_lt (order.trans before),
      List.getElem?_take_of_lt before] at same
    have found := List.getElem?_eq_getElem inside
    exact least later before _ ⟨found, earlier, order, same.trans found⟩

/-- The first repeat divides the list: it follows cards that all differ, and is
one of them. -/
theorem firstRepeat_iff :
    FirstRepeat cards place card ↔
      ∃ front back, cards = front ++ card :: back ∧ front.length = place ∧
        card ∈ front ∧ front.Nodup := by
  constructor
  · rintro ⟨⟨found, earlier, order, same⟩, least⟩
    obtain ⟨inside, rfl⟩ := List.getElem?_eq_some_iff.mp found
    refine ⟨cards.take place, cards.drop (place + 1), ?_, ?_, ?_, ?_⟩
    · simp
    · exact List.length_take_of_le inside.le
    · rw [← List.getElem?_take_of_lt order] at same
      exact List.mem_of_getElem? same
    · exact nodup_take_iff.mpr least
  · rintro ⟨front, back, rfl, rfl, again, nodup⟩
    obtain ⟨earlier, order, same⟩ := List.mem_iff_getElem.mp again
    refine ⟨⟨by simp, earlier, order, ?_⟩, ?_⟩
    · rw [List.getElem?_append_left order, List.getElem?_eq_getElem order, same]
    · apply nodup_take_iff.mp
      rwa [List.take_left]

/-- The list has a first repeat unless its cards all differ. -/
theorem exists_firstRepeat (again : ¬ cards.Nodup) :
    ∃ place card, FirstRepeat cards place card := by
  cases found : firstRepeat? [] cards with
  | none => exact absurd (firstRepeat?_eq_none_iff.mp found).1 again
  | some card =>
      obtain ⟨front, back, split, member, nodup, -⟩ :=
        firstRepeat?_eq_some_iff.mp found
      rw [List.append_nil] at member
      exact ⟨front.length, card,
        firstRepeat_iff.mpr ⟨front, back, split, rfl, member, nodup⟩⟩

theorem flaw?_eq_repeatedCard_iff {saved : SavedGame} :
    saved.flaw? = some (.repeatedCard card) ↔
      ∃ place, FirstRepeat saved.unresolved place card := by
  rw [flaw?_eq_some_iff]
  constructor
  · rintro (⟨split, again, nodup⟩ | -)
    exact ⟨_, firstRepeat_iff.mpr ⟨_, _, split, rfl, again, nodup⟩⟩
  · rintro ⟨place, first⟩
    obtain ⟨front, back, split, -, again, nodup⟩ := firstRepeat_iff.mp first
    exact .repeated split again nodup

/-- The error of a repeated card is told from that of any other card by its
words alone. -/
theorem message_repeatedCard_iff {card other : Card} :
    (SaveError.repeatedCard card).message =
        "invalid save: " ++ other.text ++ " appears more than once in the deck" ↔
      other = card := by
  change "invalid save: " ++ card.text ++ _ = "invalid save: " ++ other.text ++ _ ↔ _
  rw [String.append_left_inj, String.append_right_inj, Card.text_eq_iff, eq_comm]

/-- A saved game is taken back just when the card in hand and the cards of the
deck all differ and its turn is one that a die can have begun.  Where a card
repeats, the error is about the first that does, whatever the turn is, and names
that card and no other.  What is taken back has at most fifty-two cards in the
deck and in hand. -/
theorem first_repeat_named (saved : SavedGame) :
    (saved.flaw? = none ↔
      (saved.pending.toList ++ saved.deck).Nodup ∧
        ∀ turn, saved.turn = some turn →
          1 ≤ turn.rolled ∧ turn.rolled ≤ 6 ∧ turn.remaining ≤ turn.rolled ∧
            0 < turn.number) ∧
      (¬ (saved.pending.toList ++ saved.deck).Nodup →
        ∃ place card,
          FirstRepeat (saved.pending.toList ++ saved.deck) place card ∧
            (∀ turn, { saved with turn }.flaw? = some (.repeatedCard card)) ∧
              ∀ other,
                (SaveError.repeatedCard card).message =
                    "invalid save: " ++ other.text ++
                      " appears more than once in the deck" ↔
                  other = card) ∧
      (∀ card, saved.flaw? = some (.repeatedCard card) →
        ∃ place, FirstRepeat (saved.pending.toList ++ saved.deck) place card) ∧
      (saved.flaw? = none →
        saved.pending.toList.length + saved.deck.length ≤ 52) := by
  refine ⟨?_, ?_, ?_, ?_⟩
  · simp only [flaw?_eq_none_iff, TurnDie.isConsistent_iff, unresolved]
  · intro again
    obtain ⟨place, card, first⟩ := exists_firstRepeat again
    refine ⟨place, card, first, ?_, fun _ => message_repeatedCard_iff⟩
    -- The scan does not look at the turn.
    intro turn
    exact flaw?_eq_repeatedCard_iff.mpr ⟨place, first⟩
  · intro card found
    exact flaw?_eq_repeatedCard_iff.mp found
  · intro accepted
    have nodup := (flaw?_eq_none_iff.mp accepted).1
    rw [← List.length_append]
    exact Card.length_le_of_nodup nodup

/-- The king comes back before the ace does, and no die begins the turn. -/
def muddled : SavedGame where
  version := currentVersion
  tokens := 5
  stability := 10
  deck := [⟨.spades, .king⟩, ⟨.hearts, .two⟩, ⟨.spades, .king⟩, ⟨.spades, .ace⟩]
  history := .empty
  pending := some ⟨.spades, .ace⟩
  status := .active
  journal := ""
  turn := some { number := 1, rolled := 9, remaining := 2 }
  signature := ""

/-- Every card is still to be drawn. -/
def untouched : SavedGame :=
  { muddled with deck := Card.all, pending := none, turn := none }

/-- The king in the middle of the deck is named, and not the ace that repeats
the card in hand, nor the turn.  A deck of all cards is taken back. -/
theorem first_repeat_named_king :
    (¬ (muddled.pending.toList ++ muddled.deck).Nodup ∧
      muddled.flaw? = some (.repeatedCard ⟨.spades, .king⟩) ∧
        FirstRepeat (muddled.pending.toList ++ muddled.deck) 3
          ⟨.spades, .king⟩) ∧
      untouched.flaw? = none ∧
        untouched.pending.toList.length + untouched.deck.length ≤ 52 := by
  have repeats : ¬ (muddled.pending.toList ++ muddled.deck).Nodup := by decide
  have early : ∀ place < 3, ∀ earlier < place,
      (muddled.pending.toList ++ muddled.deck)[earlier]? ≠
        (muddled.pending.toList ++ muddled.deck)[place]? := by
    decide
  obtain ⟨-, named, -, -⟩ := first_repeat_named muddled
  obtain ⟨place, card, first, accused, -⟩ := named repeats
  have third : place = 3 := by
    rcases Nat.lt_trichotomy place 3 with before | same | after
    · obtain ⟨found, earlier, order, same⟩ := first.repeats
      exact absurd (same.trans found.symm) (early place before earlier order)
    · exact same
    · exact absurd ⟨rfl, 1, by decide, rfl⟩
        (first.least 3 after ⟨.spades, .king⟩)
  subst third
  obtain rfl : ⟨.spades, .king⟩ = card := Option.some.inj first.repeats.1
  obtain ⟨accepts, -, -, bounded⟩ := first_repeat_named untouched
  have accepted : untouched.flaw? = none := accepts.mpr ⟨Card.nodup_all, nofun⟩
  exact ⟨⟨repeats, accused muddled.turn, first⟩, accepted, bounded accepted⟩

end SavedGame

end SoloJournal
