import SoloJournal.Save.SavedGame

/-!
# Flaws of saved games

A saved game has no flaw just when the card in hand and the cards of the deck
all differ and its turn is one that a die can have begun.  Otherwise the flaw
that is named is the first card that stands for the second time or, where the
cards differ, the turn.
-/

namespace SoloJournal.SavedGame

theorem firstRepeat?_eq_none_iff {seen cards : List Card} :
    firstRepeat? seen cards = none ↔
      cards.Nodup ∧ ∀ card, card ∈ cards → card ∉ seen := by
  induction cards generalizing seen with
  | nil => simp [firstRepeat?]
  | cons card cards induction =>
      by_cases again : card ∈ seen
      · simp [firstRepeat?, again]
      · rw [firstRepeat?, if_neg again, induction, List.nodup_cons]
        constructor
        · rintro ⟨nodup, fresh⟩
          refine ⟨⟨fun member => ?_, nodup⟩, fun other member => ?_⟩
          · exact fresh card member List.mem_cons_self
          · rcases List.mem_cons.mp member with same | later
            · exact same ▸ again
            · intro seenOther
              exact fresh other later (List.mem_cons_of_mem card seenOther)
        · rintro ⟨⟨once, nodup⟩, fresh⟩
          refine ⟨nodup, fun other member seenOther => ?_⟩
          rcases List.mem_cons.mp seenOther with same | earlier
          · exact once (same ▸ member)
          · exact fresh other (List.mem_cons_of_mem card member) earlier

/-- The card that is found repeats one that was seen or that stands before it,
and no card before it does. -/
theorem firstRepeat?_eq_some_iff {seen cards : List Card} {card : Card} :
    firstRepeat? seen cards = some card ↔
      ∃ front back, cards = front ++ card :: back ∧
        card ∈ front ++ seen ∧ front.Nodup ∧
          ∀ other, other ∈ front → other ∉ seen := by
  induction cards generalizing seen with
  | nil => simp [firstRepeat?]
  | cons first cards induction =>
      by_cases again : first ∈ seen
      · rw [firstRepeat?, if_pos again, Option.some.injEq]
        constructor
        · rintro rfl
          exact ⟨[], cards, rfl, again, List.nodup_nil, nofun⟩
        · rintro ⟨front, back, split, -, -, fresh⟩
          cases front with
          | nil => exact (List.cons.inj split).1
          | cons head front =>
              obtain ⟨rfl, -⟩ := List.cons.inj split
              exact absurd again (fresh first List.mem_cons_self)
      · rw [firstRepeat?, if_neg again, induction]
        constructor
        · rintro ⟨front, back, rfl, repeats, nodup, fresh⟩
          refine ⟨first :: front, back, rfl, ?_, ?_, ?_⟩
          · simpa [or_left_comm] using repeats
          · apply List.nodup_cons.mpr
            refine ⟨?_, nodup⟩
            intro member
            exact fresh first member List.mem_cons_self
          · intro other member
            rcases List.mem_cons.mp member with rfl | later
            · exact again
            · intro known
              exact fresh other later (List.mem_cons_of_mem first known)
        · rintro ⟨front, back, split, repeats, nodup, fresh⟩
          cases front with
          | nil =>
              obtain ⟨rfl, -⟩ := List.cons.inj split
              exact absurd repeats again
          | cons head front =>
              obtain ⟨rfl, rest⟩ := List.cons.inj split
              obtain ⟨once, nodup⟩ := List.nodup_cons.mp nodup
              refine ⟨front, back, rest, ?_, nodup, ?_⟩
              · simpa [or_left_comm] using repeats
              · intro other member known
                rcases List.mem_cons.mp known with rfl | earlier
                · exact once member
                · exact fresh other (List.mem_cons_of_mem first member) earlier

theorem flaw?_eq_none_iff {saved : SavedGame} :
    saved.flaw? = none ↔
      saved.unresolved.Nodup ∧
        ∀ turn, saved.turn = some turn → turn.isConsistent = true := by
  have unseen : firstRepeat? [] saved.unresolved = none ↔
      saved.unresolved.Nodup := by
    simp [firstRepeat?_eq_none_iff]
  rw [← unseen]
  unfold flaw?
  cases repeated : firstRepeat? [] saved.unresolved with
  | some card => simp
  | none => cases saved.turn <;> simp

/-- What can be wrong with a saved game: a card stands for the second time,
after cards that all differ, or no card does and no die begins the turn. -/
inductive Flawed (saved : SavedGame) : SaveError → Prop where
  | repeated {front back : List Card} {card : Card} :
      saved.unresolved = front ++ card :: back →
      card ∈ front →
      front.Nodup →
      Flawed saved (.repeatedCard card)
  | turn {turn : TurnDie} :
      saved.unresolved.Nodup →
      saved.turn = some turn →
      turn.isConsistent = false →
      Flawed saved (.impossibleTurn turn)

theorem flaw?_eq_some_iff {saved : SavedGame} {flaw : SaveError} :
    saved.flaw? = some flaw ↔ saved.Flawed flaw := by
  have unseen : firstRepeat? [] saved.unresolved = none ↔
      saved.unresolved.Nodup := by
    simp [firstRepeat?_eq_none_iff]
  unfold flaw?
  constructor
  · intro found
    split at found
    case h_1 card repeated =>
      cases found
      obtain ⟨front, back, split, again, nodup, -⟩ :=
        firstRepeat?_eq_some_iff.mp repeated
      exact .repeated split (by simpa using again) nodup
    case h_2 differ =>
      split at found
      case h_1 turn taken =>
        split at found
        case isTrue => cases found
        case isFalse odd =>
          cases found
          exact .turn (unseen.mp differ) taken (by simpa using odd)
      case h_2 => cases found
  · intro flawed
    cases flawed with
    | repeated split again nodup =>
        have repeated := firstRepeat?_eq_some_iff.mpr
          ⟨_, _, split, by simpa using again, nodup, fun _ _ => List.not_mem_nil⟩
        rw [repeated]
    | turn differ taken odd =>
        rw [unseen.mpr differ]
        simp [taken, odd]

end SoloJournal.SavedGame
