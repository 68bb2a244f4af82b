import SoloJournal.Proofs.Flaws
import SoloJournal.Proofs.Loaded
import SoloJournal.Proofs.Standing

/-!
# No card is lost

A deck lives from the moment it is dealt until it is dealt again.  Within one
life every card is either drawn, once, or still in the deck, and the cards come
in the order in which they were dealt, whatever else is done in between.
-/

namespace SoloJournal

/-- One life of a deck: the cards that it began with, the top first, and those
drawn from it since, the earliest first. -/
structure Life where
  dealt : List Card
  drawn : List Card

namespace Life

variable {σ : Type}

/-- A life that begins with the cards of a deck. -/
def begun (deck : Deck) : Life := { dealt := deck.pile, drawn := [] }

@[simp] theorem dealt_begun (deck : Deck) : (begun deck).dealt = deck.pile :=
  rfl

/-- The life of a deck that has been saved, which is written down from its bottom
to its top. -/
def ofSaved (saved : SavedGame) : Life :=
  { dealt := saved.deck.reverse, drawn := [] }

/-- What holds of the life of a deck at all times. -/
structure Conserves (life : Life) (game : Game σ) : Prop where
  drawn_append_pile : life.drawn ++ game.deck.pile = life.dealt
  nodup_dealt : life.dealt.Nodup
  nodup_hand : (game.pending.toList ++ game.deck.pile).Nodup

/-- A drawn card moves from the deck into the hand, and the cards under it stay
as they are. -/
theorem conserves_drawn {life : Life} {game : Game σ} {card : Card}
    {pile : List Card} (conserves : Conserves life game)
    (full : game.deck.pile = card :: pile) :
    Conserves { life with drawn := life.drawn ++ [card] }
      { game with deck := { pile }, pending := some card } where
  drawn_append_pile := by
    have whole := conserves.drawn_append_pile
    rw [full] at whole
    simpa using whole
  nodup_dealt := conserves.nodup_dealt
  nodup_hand := by
    have nodup := conserves.nodup_hand.of_append_right
    rw [full] at nodup
    simpa using nodup

theorem conserves_resume {content : Content} {saved : SavedGame} {source : σ}
    {game : Game σ} (resumed : Game.resume content saved source = .ok game) :
    Conserves (ofSaved saved) game := by
  obtain ⟨-, flawless, rfl⟩ := Game.resume_eq_ok_iff.mp resumed
  obtain ⟨nodup, -⟩ := SavedGame.flaw?_eq_none_iff.mp flawless
  have nodupHand :
      (saved.pending.toList ++ saved.deck.reverse).Nodup :=
    ((List.reverse_perm saved.deck).append_left _).nodup_iff.mpr nodup
  exact {
    drawn_append_pile := rfl
    nodup_dealt := nodupHand.of_append_right
    nodup_hand := nodupHand }

theorem Conserves.nodup_drawn_append {life : Life} {game : Game σ}
    (conserves : Conserves life game) :
    (life.drawn ++ game.deck.pile).Nodup :=
  conserves.drawn_append_pile ▸ conserves.nodup_dealt

theorem Conserves.pending_not_mem {life : Life} {game : Game σ}
    (conserves : Conserves life game) {card : Card}
    (hand : game.pending = some card) : card ∉ game.deck.pile := by
  have nodup := conserves.nodup_hand
  rw [hand] at nodup
  exact (List.nodup_cons.mp nodup).1

variable [RandomSource σ]

/-- The life of the deck after a move.  A new deal begins another one, and so
does a draw from an empty deck, which deals all cards before it takes one. -/
def next (life : Life) (game : Game σ) (move : Move) : Life :=
  match move, (game.perform move).answer with
  | .restart, _ => begun (game.perform move).after.deck
  | .draw, .ok (.drawn card) =>
      if game.deck.isEmpty then
        { dealt := (Deck.dealt game.source).1.pile, drawn := [card] }
      else { life with drawn := life.drawn ++ [card] }
  | _, _ => life

/-- The life of the deck after a list of moves. -/
def afterMoves (life : Life) (game : Game σ) : List Move → Life
  | [] => life
  | move :: moves =>
      (life.next game move).afterMoves (game.perform move).after moves

/-- A deck that is just dealt, with no card in hand. -/
theorem conserves_dealt {game : Game σ} {state : σ}
    (deck : game.deck = (Deck.dealt state).1) (hand : game.pending = none) :
    Conserves (begun game.deck) game := by
  have nodup := Deck.pile_dealt_nodup state
  rw [← deck] at nodup
  exact {
    drawn_append_pile := rfl
    nodup_dealt := nodup
    nodup_hand := by simpa [hand] using nodup }

theorem conserves_drawnAnew {game : Game σ} {card : Card} {pile : List Card}
    (full : (Deck.dealt game.source).1.pile = card :: pile) :
    Conserves
      { dealt := (Deck.dealt game.source).1.pile, drawn := [card] }
      { game with
        deck := { pile }
        source := (Deck.dealt game.source).2
        pending := some card } := by
  have nodup := Deck.pile_dealt_nodup game.source
  rw [full] at nodup ⊢
  exact {
    drawn_append_pile := rfl
    nodup_dealt := nodup
    nodup_hand := nodup }

theorem conserves_next {life : Life} {game : Game σ}
    (conserves : Conserves life game) (move : Move) :
    Conserves (life.next game move) (game.perform move).after := by
  have performs := Game.performs_perform game move
  unfold next
  generalize game.perform move = outcome at performs
  cases performs with
  | refused refusal =>
      cases move with
      | restart => cases refusal
      | _ => exact conserves
  | rolled => exact ⟨conserves.1, conserves.2, conserves.3⟩
  | drawn active hand full =>
      have notEmpty : game.deck.isEmpty = false := by
        simp [Deck.isEmpty, full]
      simp only [Outcome.accept, notEmpty]
      exact conserves_drawn conserves full
  | drawnAnew active hand empty again full =>
      have isEmpty : game.deck.isEmpty = true := by
        simp [Deck.isEmpty, empty]
      simp only [Outcome.accept, isEmpty, if_true]
      exact conserves_drawnAnew full
  | resolved active hand known =>
      show Conserves life (game.applyPrompt _ _).after
      rw [Game.applyPrompt_after active]
      exact ⟨conserves.1, conserves.2, conserves.nodup_hand.of_append_right⟩
  | adjusted active changed =>
      show Conserves life (Game.checkEnd _).2
      rw [Game.checkEnd_of_active (by exact active)]
      exact ⟨conserves.1, conserves.2, conserves.3⟩
  | written => exact ⟨conserves.1, conserves.2, conserves.3⟩
  | restarted => exact conserves_dealt rfl rfl

theorem conserves_afterMoves {life : Life} {game : Game σ}
    (conserves : Conserves life game) (moves : List Move) :
    Conserves (life.afterMoves game moves) (game.afterMoves moves) := by
  induction moves generalizing life game with
  | nil => exact conserves
  | cons move moves induction => exact induction (conserves_next conserves move)

theorem conserves_start (content : Content) (source : σ) :
    Conserves (begun (Game.start content source).deck)
      (Game.start content source) :=
  conserves_dealt rfl rfl

/-- A move that does not end the life of a deck: it is no new deal, and no draw
that an empty deck grants. -/
def Continues (game : Game σ) (move : Move) : Prop :=
  move ≠ .restart ∧
    ∀ card, game.deck.isEmpty = true →
      (game.perform move).answer ≠ .ok (.drawn card)

theorem dealt_next_of_continues (life : Life) {game : Game σ} {move : Move}
    (continues : Continues game move) :
    (life.next game move).dealt = life.dealt := by
  obtain ⟨goesOn, undealt⟩ := continues
  unfold next
  split
  · exact absurd rfl goesOn
  · next card answer =>
      split
      · next empty => exact absurd answer (undealt card empty)
      · rfl
  · rfl

/-- Only a draw answers with a card. -/
theorem draw_of_answer {game : Game σ} {move : Move} {card : Card}
    (answer : (game.perform move).answer = .ok (.drawn card)) :
    move = .draw := by
  have performs := Game.performs_perform game move
  generalize game.perform move = outcome at performs answer
  cases performs with
  | drawn => rfl
  | drawnAnew => rfl
  | @resolved card prompt active hand known =>
      have mapped : (game.applyPrompt card prompt).answer.map .resolved =
          .ok (MoveAnswer.drawn _) :=
        answer
      cases applied : (game.applyPrompt card prompt).answer with
      | error error =>
          rw [applied] at mapped
          cases mapped
      | ok effect =>
          rw [applied] at mapped
          cases mapped
  | _ => cases answer

/-- A new life begins with all cards. -/
theorem dealt_next_perm (life : Life) {game : Game σ} {move : Move}
    (ends : ¬ Continues game move) :
    (life.next game move).dealt.Perm Card.all := by
  have perm := Deck.pile_dealt_perm game.source
  by_cases restart : move = .restart
  · subst restart
    have anew : (game.perform .restart).after.deck =
        (Deck.dealt game.source).1 :=
      rfl
    unfold next
    rw [dealt_begun, anew]
    exact perm
  · obtain ⟨card, empty, answer⟩ : ∃ card, game.deck.isEmpty = true ∧
        (game.perform move).answer = .ok (.drawn card) := by
      simpa [Continues, restart] using ends
    obtain rfl := draw_of_answer answer
    unfold next
    rw [answer]
    simp only [empty, if_true]
    exact perm

/-- The cards that a deck began with stay the same until a move ends its life,
and from then on are all cards. -/
theorem dealt_afterMoves (life : Life) (game : Game σ) (moves : List Move) :
    (game.Along Continues moves →
        (life.afterMoves game moves).dealt = life.dealt) ∧
      (¬ game.Along Continues moves →
        (life.afterMoves game moves).dealt.Perm Card.all) := by
  induction moves generalizing life game with
  | nil => exact ⟨fun _ => rfl, fun ends => absurd trivial ends⟩
  | cons move moves induction =>
      obtain ⟨stays, anew⟩ :=
        induction (life.next game move) (game.perform move).after
      constructor
      · rintro ⟨continues, along⟩
        exact (stays along).trans (life.dealt_next_of_continues continues)
      · intro ends
        by_cases along : (game.perform move).after.Along Continues moves
        · have here : ¬ Continues game move := fun continues =>
            ends ⟨continues, along⟩
          show ((life.next game move).afterMoves _ moves).dealt.Perm Card.all
          rw [stays along]
          exact life.dealt_next_perm here
        · exact anew along

/-- Only a new deal and an accepted draw touch the deck. -/
theorem deck_perform (game : Game σ) {move : Move}
    (goesOn : move ≠ .restart)
    (undrawn : ∀ card, (game.perform move).answer ≠ .ok (.drawn card)) :
    (game.perform move).after.deck = game.deck := by
  have performs := Game.performs_perform game move
  generalize game.perform move = outcome at performs undrawn
  cases performs with
  | @drawn card pile active hand full => exact absurd rfl (undrawn card)
  | @drawnAnew card pile active hand empty again full =>
      exact absurd rfl (undrawn card)
  | resolved active hand known =>
      show (game.applyPrompt _ _).after.deck = game.deck
      rw [Game.applyPrompt_after active]
      rfl
  | adjusted active changed =>
      show (Game.checkEnd _).2.deck = game.deck
      rw [Game.checkEnd_of_active (by exact active)]
  | restarted => exact absurd rfl goesOn
  | _ => rfl

/-- Cards are conserved, whatever a source of chance answers.  In every run of
a new game the deck was last dealt with all cards, and the cards drawn since
then, followed by those still in the deck from its top on, are the cards as
they were dealt: none comes twice and none is lost.  Whatever is neither a new
deal nor an accepted draw leaves the coming cards alone, and the card in hand
is not in the deck.  In a run of a game that was gone on with, the same holds
from the saved deck on: until cards are dealt anew, those drawn and those still
in the deck are the saved ones in their order. -/
theorem cards_conserved (content : Content) (source : σ) :
    (∀ moves : List Move,
      let fresh := Game.start content source
      let game := fresh.afterMoves moves
      let life := (begun fresh.deck).afterMoves fresh moves
      life.dealt.Perm Card.all ∧
        life.drawn ++ game.deck.pile = life.dealt ∧
        (life.drawn ++ game.deck.pile).Nodup ∧
        (∀ card, card ∈ life.drawn ∨ card ∈ game.deck.pile) ∧
        (∀ card, game.pending = some card → card ∉ game.deck.pile) ∧
        ∀ move, move ≠ .restart →
          (∀ card, (game.perform move).answer ≠ .ok (.drawn card)) →
            (game.perform move).after.deck = game.deck) ∧
      ∀ (saved : SavedGame) (resumed : Game σ) (moves : List Move),
        Game.resume content saved source = .ok resumed →
          let game := resumed.afterMoves moves
          let life := (ofSaved saved).afterMoves resumed moves
          (resumed.Along Continues moves → life.dealt = saved.deck.reverse) ∧
            (¬ resumed.Along Continues moves → life.dealt.Perm Card.all) ∧
            life.drawn ++ game.deck.pile = life.dealt ∧
            (life.drawn ++ game.deck.pile).Nodup ∧
            (game.pending.toList ++ game.deck.pile).Nodup ∧
            ∀ move, move ≠ .restart →
              (∀ card, (game.perform move).answer ≠ .ok (.drawn card)) →
                (game.perform move).after.deck = game.deck := by
  constructor
  · intro moves fresh game life
    have conserves : Conserves life game :=
      conserves_afterMoves (conserves_start content source) moves
    obtain ⟨stays, anew⟩ := dealt_afterMoves (begun fresh.deck) fresh moves
    have perm : life.dealt.Perm Card.all := by
      by_cases along : fresh.Along Continues moves
      · rw [stays along, dealt_begun]
        exact Deck.pile_dealt_perm source
      · exact anew along
    refine ⟨perm, conserves.drawn_append_pile, conserves.nodup_drawn_append,
      ?_, ?_, ?_⟩
    · intro card
      have member : card ∈ life.drawn ++ game.deck.pile := by
        rw [conserves.drawn_append_pile]
        exact perm.mem_iff.mpr (Card.mem_all card)
      exact List.mem_append.mp member
    · intro card hand
      exact conserves.pending_not_mem hand
    · intro move goesOn undrawn
      exact deck_perform game goesOn undrawn
  · intro saved resumed moves resumes game life
    have conserves : Conserves life game :=
      conserves_afterMoves (conserves_resume resumes) moves
    obtain ⟨stays, anew⟩ := dealt_afterMoves (ofSaved saved) resumed moves
    refine ⟨stays, anew, conserves.drawn_append_pile,
      conserves.nodup_drawn_append, conserves.nodup_hand, ?_⟩
    intro move goesOn undrawn
    exact deck_perform game goesOn undrawn

/-- A saved game with two cards in the deck and one in hand. -/
def lateGame : SavedGame where
  version := 1
  tokens := 5
  stability := 10
  deck := [⟨.spades, .ace⟩, ⟨.hearts, .two⟩]
  history := History.empty
  pending := some ⟨.clubs, .king⟩
  status := .active
  journal := ""
  turn := none
  signature := ""

/-- The last cards of a saved game come in their order and differ from the one
in hand, also when moves in between are refused. -/
theorem cards_conserved_late :
    ∃ resumed : Game Loaded,
      Game.resume Content.practice lateGame Loaded.threes = .ok resumed ∧
        (let moves : List Move := [.draw, .resolve, .draw, .roll]
        let game := resumed.afterMoves moves
        let life := (ofSaved lateGame).afterMoves resumed moves
        life.drawn ++ game.deck.pile = [⟨.hearts, .two⟩, ⟨.spades, .ace⟩] ∧
          (game.pending.toList ++ game.deck.pile).Nodup) := by
  have resumes := @Game.resume_eq_ok_iff _ Content.practice lateGame
    Loaded.threes _ |>.mpr
      ⟨.inl rfl, by decide, rfl⟩
  obtain ⟨stays, -, whole, -, nodup, -⟩ :=
    (cards_conserved Content.practice Loaded.threes).2 lateGame _
      [.draw, .resolve, .draw, .roll] resumes
  refine ⟨_, resumes, whole.trans (stays ?_), nodup⟩
  refine ⟨⟨nofun, ?_⟩, ⟨nofun, ?_⟩, ⟨nofun, ?_⟩, ⟨nofun, ?_⟩, trivial⟩
  all_goals
    intro card empty
    cases empty

end Life

end SoloJournal
