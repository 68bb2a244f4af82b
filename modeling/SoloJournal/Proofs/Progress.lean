import Mathlib.Data.List.Perm.Subperm
import SoloJournal.Proofs.Loading
import SoloJournal.Proofs.Refusals
import SoloJournal.Proofs.Reload

/-!
# Loaded games never get stuck

An active game has a card to apply in the hand, or else one to draw: when
neither is left, and the deck is not dealt again, the game has been judged to be
over.  With a catalog that knows every card this makes exactly one of drawing
and applying possible at any time.
-/

namespace SoloJournal

namespace Status

theorem judge_spent_ne_active (ledger : Ledger) :
    judge ledger 0 true ≠ .active := by
  unfold judge
  split
  · decide
  · split <;> decide

end Status

namespace Game

variable {σ : Type} [RandomSource σ] {content : Content} {game : Game σ}

def Accepts (game : Game σ) (move : Move) : Prop :=
  ∃ answer, (game.perform move).answer = .ok answer

theorem accepts_iff {move : Move} :
    game.Accepts move ↔ game.refusal? move = none := by
  constructor
  · rintro ⟨answer, accepted⟩
    cases refusal : game.refusal? move with
    | none => rfl
    | some error =>
        rw [perform_of_refusal refusal] at accepted
        cases accepted
  · intro allowed
    cases answer : (game.perform move).answer with
    | ok value => exact ⟨value, answer⟩
    | error error =>
        have refusal := (perform_eq_refuse answer).2
        rw [allowed] at refusal
        cases refusal

/-- The games that moves lead to, from a new game or one that was saved. -/
inductive Reached (content : Content) : Game σ → Prop where
  | dealt (source : σ) : Reached content (start content source)
  | resumed {saved : SavedGame} {source : σ} {game : Game σ} :
      resume content saved source = .ok game → Reached content game
  | moved {game : Game σ} (move : Move) :
      Reached content game → Reached content (game.perform move).after

theorem Reached.afterMoves (reached : Reached content game)
    (moves : List Move) : Reached content (game.afterMoves moves) :=
  afterMoves_of_kept (fun _ move => .moved move) reached moves

theorem Reached.vigilant (playable : content.Playable)
    (reached : Reached content game) : Vigilant content game := by
  induction reached with
  | dealt source =>
      constructor
      · rfl
      · intro
        exact judged_start playable source
  | resumed resumed => exact vigilant_resume resumed
  | moved move reached induction =>
      exact vigilant_perform playable _ move induction

theorem Reached.nodup_hand (reached : Reached content game) :
    (game.pending.toList ++ game.deck.pile).Nodup := by
  induction reached with
  | dealt source => exact (Life.conserves_start content source).nodup_hand
  | resumed resumed => exact (Life.conserves_resume resumed).nodup_hand
  | moved move reached induction => exact nodup_hand_perform move induction

theorem Reached.remaining_le (reached : Reached content game) :
    game.deck.remaining ≤ 52 :=
  Card.length_le_of_nodup reached.nodup_hand.of_append_right

/-- Without another deal, a game that has nothing left to draw or to apply is
over. -/
theorem Reached.over_of_spent (playable : content.Playable)
    (reached : Reached content game)
    (once : content.rules.reshuffle = false)
    (empty : game.deck.pile = []) (hand : game.pending = none) :
    game.status ≠ .active := by
  intro active
  have vigilant := reached.vigilant playable
  have judgement := vigilant.judged_eq active
  have spent : game.unresolved = 0 := by
    simp [unresolved, Deck.remaining, empty, hand]
  rw [judged, spent, vigilant.content_eq, once] at judgement
  exact Status.judge_spent_ne_active game.ledger judgement

/-! ## The next move -/

/-- An active game with an empty hand has a card to draw. -/
theorem Reached.drawable (playable : content.Playable)
    (reached : Reached content game) (active : game.status = .active)
    (hand : game.pending = none) :
    (game.deck.isEmpty && !game.content.rules.reshuffle) = false := by
  have vigilant := reached.vigilant playable
  rw [vigilant.content_eq]
  cases again : content.rules.reshuffle with
  | true => simp
  | false =>
      have full : game.deck.pile ≠ [] := by
        intro empty
        exact reached.over_of_spent playable again empty hand active
      simpa [Deck.isEmpty] using full

/-- A draw is never refused for want of cards. -/
theorem Reached.refusal?_draw (playable : content.Playable)
    (reached : Reached content game) :
    game.refusal? .draw =
      if game.status.isTerminal then some (.gameOver game.status)
      else if game.pending.isSome then some .drawWhilePending
      else none := by
  by_cases ended : game.status.isTerminal = true
  · simp [refusal?, ended]
  have active : game.status = .active := by
    simpa [Status.isTerminal_eq_false_iff] using ended
  cases hand : game.pending with
  | some card => simp [refusal?, ended, hand]
  | none =>
      have full := reached.drawable playable active hand
      simp [refusal?, ended, hand, full]

/-- With a complete catalog, applying is never refused for want of a prompt. -/
theorem Reached.refusal?_resolve (playable : content.Playable)
    (complete : ∀ card, (content.catalog.prompt? card).isSome)
    (reached : Reached content game) :
    game.refusal? .resolve =
      if game.status.isTerminal then some (.gameOver game.status)
      else if game.pending.isSome then none
      else some .noPendingCard := by
  have vigilant := reached.vigilant playable
  by_cases ended : game.status.isTerminal = true
  · simp [refusal?, ended]
  cases hand : game.pending with
  | none => simp [refusal?, ended, hand]
  | some card =>
      have known := Option.isSome_iff_ne_none.mp (complete card)
      rw [← vigilant.content_eq] at known
      simp [refusal?, ended, hand, known]

theorem Reached.draw_ne_emptyDeck (playable : content.Playable)
    (reached : Reached content game) :
    (game.perform .draw).answer ≠ .error .emptyDeck := by
  intro refused
  have refusal := (perform_eq_refuse refused).2
  rw [reached.refusal?_draw playable] at refusal
  split at refusal
  · cases refusal
  · split at refusal <;> cases refusal

theorem Reached.resolve_ne_unknownCard (playable : content.Playable)
    (complete : ∀ card, (content.catalog.prompt? card).isSome)
    (reached : Reached content game) (card : Card) :
    (game.perform .resolve).answer ≠ .error (.unknownCard card) := by
  intro refused
  have refusal := (perform_eq_refuse refused).2
  rw [reached.refusal?_resolve playable complete] at refusal
  split at refusal
  · cases refusal
  · split at refusal <;> cases refusal

theorem Reached.accepts_draw_iff (playable : content.Playable)
    (complete : ∀ card, (content.catalog.prompt? card).isSome)
    (reached : Reached content game) (active : game.status = .active) :
    game.Accepts .draw ↔ ¬ game.Accepts .resolve := by
  rw [accepts_iff, accepts_iff, reached.refusal?_draw playable,
    reached.refusal?_resolve playable complete, active]
  cases game.pending <;> simp [Status.isTerminal]

/-! ## Draws from one deal -/

def drawn? (outcome : Outcome GameError MoveAnswer (Game σ)) : Option Card :=
  match outcome.answer with
  | .ok (.drawn card) => some card
  | _ => none

/-- The cards that a list of moves draws. -/
def draws (game : Game σ) (moves : List Move) : List Card :=
  (game.outcomes moves).filterMap drawn?

/-- While the deck is not dealt again, a move takes what it draws from the top
of the deck, and nothing else. -/
theorem drawn?_append_pile {move : Move}
    (once : game.content.rules.reshuffle = false) (goesOn : move ≠ .restart) :
    (drawn? (game.perform move)).toList ++
        (game.perform move).after.deck.pile =
      game.deck.pile := by
  have performs := performs_perform game move
  have kept := Life.deck_perform game goesOn
  generalize game.perform move = outcome at performs kept
  cases performs with
  | drawn active hand full => exact full.symm
  | drawnAnew active hand empty again full =>
      -- only a deck that is dealt again could have been drawn from empty
      rw [once] at again
      cases again
  | restarted => exact absurd rfl goesOn
  | _ =>
      have undrawn := kept (by intro card drawn; cases drawn)
      exact congrArg Deck.pile undrawn

theorem draws_cons (game : Game σ) (move : Move) (moves : List Move) :
    game.draws (move :: moves) =
      (drawn? (game.perform move)).toList ++
        (game.perform move).after.draws moves := by
  cases drawn : drawn? (game.perform move) <;>
    simp [draws, outcomes, drawn]

theorem draws_append_pile {moves : List Move}
    (once : game.content.rules.reshuffle = false)
    (goesOn : .restart ∉ moves) :
    game.draws moves ++ (game.afterMoves moves).deck.pile =
      game.deck.pile := by
  induction moves generalizing game with
  | nil => rfl
  | cons move moves induction =>
      rw [List.mem_cons, not_or] at goesOn
      obtain ⟨other, goesOn⟩ := goesOn
      have stillOnce :
          (game.perform move).after.content.rules.reshuffle = false := by
        rw [content_perform]
        exact once
      calc
        game.draws (move :: moves) ++
            (game.afterMoves (move :: moves)).deck.pile
          = (drawn? (game.perform move)).toList ++
              ((game.perform move).after.draws moves ++
                ((game.perform move).after.afterMoves moves).deck.pile) := by
            rw [draws_cons, afterMoves_cons, List.append_assoc]
        _ = (drawn? (game.perform move)).toList ++
              (game.perform move).after.deck.pile := by
            rw [induction stillOnce goesOn]
        _ = game.deck.pile := drawn?_append_pile once (Ne.symm other)

theorem Reached.length_draws_add (playable : content.Playable)
    (reached : Reached content game)
    (once : content.rules.reshuffle = false) {moves : List Move}
    (goesOn : .restart ∉ moves) :
    (game.draws moves).length + (game.afterMoves moves).deck.remaining =
      game.deck.remaining := by
  have vigilant := reached.vigilant playable
  rw [← vigilant.content_eq] at once
  have whole := congrArg List.length (draws_append_pile once goesOn)
  rwa [List.length_append] at whole

/-- Once the whole deck has been drawn and the last card has left the hand, the
game is over. -/
theorem Reached.over_of_drawn_out (playable : content.Playable)
    (reached : Reached content game)
    (once : content.rules.reshuffle = false) {moves : List Move}
    (goesOn : .restart ∉ moves)
    (all : game.deck.remaining ≤ (game.draws moves).length)
    (hand : (game.afterMoves moves).pending = none) :
    (game.afterMoves moves).status ≠ .active := by
  have whole := reached.length_draws_add playable once goesOn
  have empty : (game.afterMoves moves).deck.pile = [] := by
    apply List.length_eq_zero_iff.mp
    change (game.afterMoves moves).deck.remaining = 0
    omega
  exact (reached.afterMoves moves).over_of_spent playable once empty hand

/-- Loaded games never get stuck.  They begin as active ones, also as they are
judged.  In whatever state moves lead to, from a new game or one that was gone
on with, no draw is refused because the deck is empty and no card because it has
no prompt; while the game is active, exactly one of drawing and applying is
accepted.  When the deck is not dealt again, at most fifty-two draws are
accepted without a new deal, and the game is over as soon as the last of
fifty-two cards has left the hand. -/
theorem never_stuck {tree : FileTree} {dir : String}
    {loaded : Authoring.LoadedGame}
    (loads : Authoring.loadGame tree dir = .ok loaded) :
    (∀ source : σ,
      (start loaded.content source).status = .active ∧
        (start loaded.content source).judged = .active) ∧
      ∀ game : Game σ, Reached loaded.content game →
        (game.perform .draw).answer ≠ .error .emptyDeck ∧
          (∀ card,
            (game.perform .resolve).answer ≠ .error (.unknownCard card)) ∧
          (game.status = .active →
            (game.Accepts .draw ↔ ¬ game.Accepts .resolve)) ∧
          (loaded.content.rules.reshuffle = false →
            ∀ moves, .restart ∉ moves →
              (game.draws moves).length ≤ 52 ∧
                ((game.draws moves).length = 52 →
                  (game.afterMoves moves).pending = none →
                    (game.afterMoves moves).status.isTerminal)) := by
  have playable := Authoring.playable_of_loadGame loads
  have complete := Authoring.prompt?_of_loadGame loads
  constructor
  · intro source
    exact ⟨rfl, judged_start playable source⟩
  intro game reached
  refine ⟨reached.draw_ne_emptyDeck playable,
    reached.resolve_ne_unknownCard playable complete,
    reached.accepts_draw_iff playable complete, ?_⟩
  intro once moves goesOn
  have few := reached.remaining_le
  constructor
  · have whole := reached.length_draws_add playable once goesOn
    omega
  · intro all hand
    have ended := reached.over_of_drawn_out playable once goesOn
      (all ▸ few) hand
    simpa [Status.isTerminal] using ended

end Game

/-! ## A small directory -/

namespace Authoring

def smallRulebook : String :=
  "\n".intercalate
    ["game:", " title: T", " author: A",
      "mechanics:", " tokens:", "  name: H", "  initial: 5",
      " stability:", "  name: S", "  initial: 9",
      "conditions:", " win: []"]

/-- A catalog that has the same prompt for every card. -/
def smallCatalog : String :=
  "\n".intercalate
    (["spades: &s", " A: &c", "  title: T", "  description: D"]
      ++ Rank.all.tail.map (fun rank => " " ++ rank.key ++ ": *c")
      ++ ["hearts: *s", "diamonds: *s", "clubs: *s"])

def smallTree : FileTree where
  nodes :=
    [(["game"], .directory),
      (["game", "config.yaml"], .file smallRulebook.toUTF8),
      (["game", "cards.yaml"], .file smallCatalog.toUTF8)]

end Authoring

namespace Game

def wholeDeck : List Move :=
  (List.replicate 52 [Move.draw, Move.resolve]).flatten

/-- The small directory is loaded, and its game is over when all its cards have
been applied. -/
theorem never_stuck_small :
    ∃ loaded, Authoring.loadGame Authoring.smallTree "game" = .ok loaded ∧
      let game := start loaded.content Loaded.threes
      (game.Accepts .draw ↔ ¬ game.Accepts .resolve) ∧
        (game.draws wholeDeck).length = 52 ∧
        (game.afterMoves wholeDeck).status.isTerminal := by
  have played : (Authoring.loadGame Authoring.smallTree "game").toOption.any
      (fun loaded =>
        let game := start loaded.content Loaded.threes
        loaded.content.rules.reshuffle = false ∧
          (game.draws wholeDeck).length = 52 ∧
          (game.afterMoves wholeDeck).pending = none) := by
    decide +kernel
  cases loads : Authoring.loadGame Authoring.smallTree "game" with
  | error error =>
      rw [loads] at played
      cases played
  | ok loaded =>
      rw [loads] at played
      obtain ⟨once, all, hand⟩ := of_decide_eq_true played
      obtain ⟨-, unstuck⟩ := never_stuck (σ := Loaded) loads
      obtain ⟨-, -, either, spent⟩ := unstuck _ (.dealt Loaded.threes)
      obtain ⟨-, ends⟩ := spent once wholeDeck (by decide)
      exact ⟨loaded, rfl, either rfl, all, ends all hand⟩

end Game

end SoloJournal
