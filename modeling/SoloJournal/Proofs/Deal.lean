import Mathlib.Data.List.Nodup
import Mathlib.Data.List.Perm.Subperm
import SoloJournal.Play.Deck

/-!
# Dealing and drawing

Shuffling only changes the order of what is shuffled, whatever a source of
chance answers.  A deck that has been dealt therefore holds every card once,
and drawing from a deck takes its top card and nothing else.
-/

namespace SoloJournal

universe u v

variable {source : Type u} [RandomSource source] {item : Type v}

theorem swapIfInBounds_perm (items : Array item) (left right : Nat) :
    (items.swapIfInBounds left right).toList.Perm items.toList := by
  unfold Array.swapIfInBounds
  split
  · split
    · exact (Array.swap_perm ‹_› ‹_›).toList
    · exact List.Perm.refl _
  · exact List.Perm.refl _

theorem shuffleFrom_perm (last : Nat) (items : Array item) (state : source) :
    (shuffleFrom last items state).1.toList.Perm items.toList := by
  induction last generalizing items state with
  | zero => exact List.Perm.refl _
  | succ last induction =>
      simp only [shuffleFrom]
      exact (induction _ _).trans (swapIfInBounds_perm items _ _)

/-- A shuffled list holds the items of the list in some order. -/
theorem shuffle_perm (items : List item) (state : source) :
    (shuffle items state).1.Perm items := by
  simpa [shuffle] using
    shuffleFrom_perm (items.length - 1) items.toArray state

/-- There are never more different cards than there are cards. -/
theorem Card.length_le_of_nodup {cards : List Card} (nodup : cards.Nodup) :
    cards.length ≤ 52 := by
  have within : cards ⊆ Card.all := fun card _ => Card.mem_all card
  exact (nodup.subperm within).length_le

namespace Deck

/-- A dealt deck holds every card once, in some order. -/
theorem pile_dealt_perm (state : source) :
    (dealt state).1.pile.Perm Card.all := by
  have settled : (shuffle Card.all state).1.Perm Card.all :=
    shuffle_perm Card.all state
  simpa [dealt, shuffled, standard, ofOrder, order] using
    (List.reverse_perm _).trans settled

theorem pile_dealt_nodup (state : source) : (dealt state).1.pile.Nodup :=
  (pile_dealt_perm state).nodup_iff.mpr Card.nodup_all

@[simp] theorem remaining_dealt (state : source) :
    (dealt state).1.remaining = 52 := by
  have same := (pile_dealt_perm state).length_eq
  rwa [Card.length_all] at same

/-- A dealt deck has a top card. -/
theorem pile_dealt_eq_cons (state : source) :
    ∃ card pile, (dealt state).1.pile = card :: pile := by
  have count := remaining_dealt state
  unfold remaining at count
  exact List.exists_cons_of_length_eq_add_one count

/-- What drawing from a deck can lead to: the top card is taken, or an empty
deck is dealt again and its top card is taken, or there is nothing to draw. -/
inductive Draws (reshuffle : Bool) (deck : Deck) (state : source) :
    Option (Draw × Deck × source) → Prop where
  | top {card : Card} {pile : List Card} :
      deck.pile = card :: pile →
      Draws reshuffle deck state
        (some ({ card, reshuffled := false }, { pile }, state))
  | anew {card : Card} {pile : List Card} :
      deck.pile = [] →
      reshuffle = true →
      (dealt state).1.pile = card :: pile →
      Draws reshuffle deck state
        (some ({ card, reshuffled := true }, { pile }, (dealt state).2))
  | nothing :
      deck.pile = [] →
      reshuffle = false →
      Draws reshuffle deck state none

theorem draws_draw? (reshuffle : Bool) (deck : Deck) (state : source) :
    Draws reshuffle deck state (deck.draw? reshuffle state) := by
  unfold draw?
  split
  case h_1 card pile same => exact .top same
  case h_2 empty =>
    obtain ⟨card, pile, full⟩ := pile_dealt_eq_cons state
    cases reshuffle with
    | false => exact .nothing empty rfl
    | true =>
        cases result : dealt state with
        | mk deck next =>
            cases deck with
            | mk rest =>
                have same : rest = card :: pile := by
                  simpa only [result] using full
                subst same
                simpa [result] using Draws.anew empty rfl full

end Deck

end SoloJournal
