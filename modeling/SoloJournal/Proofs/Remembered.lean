import Mathlib.Data.List.DropRight
import SoloJournal.Proofs.SavedText
import SoloJournal.Proofs.Standing

/-!
# What a history remembers

A history is the first ten of all cards applied since the last new deal, the
latest first, followed by the history that the game was gone on with where there
was no new deal.  Cutting it again and again, as cards come and saves are read
back, comes to the same as cutting it once at the end.
-/

namespace SoloJournal

/-- Cutting in between makes no difference to what is left in the end. -/
theorem History.ofList_append_cards (front back : List Card) :
    ofList (front ++ (ofList back).cards) = ofList (front ++ back) := by
  ext1
  show (front ++ back.take limit).take limit = (front ++ back).take limit
  rw [List.take_append, List.take_append, List.take_take,
    Nat.min_eq_left (Nat.sub_le _ _)]

/-- A move that goes on with the game, and does not deal a new one. -/
def Move.goesOn (move : Move) : Bool :=
  move ≠ .restart

namespace Game

variable {σ : Type} [RandomSource σ]

/-! ## The cards of a run -/

def applied? (outcome : Outcome GameError MoveAnswer (Game σ)) : Option Card :=
  match outcome.answer with
  | .ok (.resolved applied) => some applied.card
  | _ => none

/-- The cards that a list of moves applies, the earliest first. -/
def appliedCards (game : Game σ) (moves : List Move) : List Card :=
  (game.outcomes moves).filterMap applied?

theorem appliedCards_concat (game : Game σ) (moves : List Move) (move : Move) :
    game.appliedCards (moves ++ [move]) =
      game.appliedCards moves
        ++ (applied? ((game.afterMoves moves).perform move)).toList := by
  cases applied : applied? ((game.afterMoves moves).perform move) <;>
    simp [appliedCards, outcomes_append, outcomes, applied]

/-- The cards applied since the last new deal among the moves, or by all of them
where there is none. -/
def appliedSinceDeal (game : Game σ) (moves : List Move) : List Card :=
  (game.afterMoves (moves.rdropWhile Move.goesOn)).appliedCards
    (moves.rtakeWhile Move.goesOn)

theorem appliedSinceDeal_restart (game : Game σ) (moves : List Move) :
    game.appliedSinceDeal (moves ++ [.restart]) = [] := by
  rw [appliedSinceDeal, List.rtakeWhile_concat_neg _ _ _ (by simp [Move.goesOn])]
  rfl

theorem appliedSinceDeal_concat (game : Game σ) (moves : List Move) {move : Move}
    (goesOn : move ≠ .restart) :
    game.appliedSinceDeal (moves ++ [move]) =
      game.appliedSinceDeal moves
        ++ (applied? ((game.afterMoves moves).perform move)).toList := by
  have going : Move.goesOn move = true := by simpa [Move.goesOn] using goesOn
  have whole : moves.rdropWhile Move.goesOn ++ moves.rtakeWhile Move.goesOn =
      moves := List.rdropWhile_append_rtakeWhile
  rw [appliedSinceDeal, List.rtakeWhile_concat_pos _ _ _ going,
    List.rdropWhile_concat_pos _ _ _ going, appliedCards_concat,
    ← afterMoves_append, whole]
  rfl

/-! ## The history of a run -/

/-- A move that goes on puts the card it applies, if any, in front of the
history. -/
theorem history_perform (game : Game σ) {move : Move}
    (goesOn : move ≠ .restart) :
    (game.perform move).after.history =
      .ofList ((applied? (game.perform move)).toList ++ game.history.cards) := by
  have kept : game.history = .ofList game.history.cards :=
    game.history.ofList_cards.symm
  have performs := performs_perform game move
  generalize game.perform move = outcome at performs
  cases performs with
  | resolved active hand known =>
      show (game.applyPrompt _ _).after.history = _
      rw [applyPrompt_after active]
      rfl
  | adjusted active changed =>
      show (Game.checkEnd _).2.history = _
      rw [checkEnd_of_active (by exact active)]
      exact kept
  | restarted => exact absurd rfl goesOn
  | _ => exact kept

theorem history_afterMoves (game : Game σ) (moves : List Move) :
    (game.afterMoves moves).history =
      .ofList ((game.appliedSinceDeal moves).reverse
        ++ if .restart ∈ moves then [] else game.history.cards) := by
  induction moves using List.reverseRecOn with
  | nil => exact game.history.ofList_cards.symm
  | append_singleton moves move induction =>
      rw [afterMoves_append, afterMoves_cons, afterMoves_nil]
      by_cases again : move = .restart
      · subst again
        rw [appliedSinceDeal_restart, if_pos (by simp)]
        rfl
      · have same : .restart ∈ moves ++ [move] ↔ .restart ∈ moves := by
          simp [Ne.symm again]
        rw [history_perform _ again, induction, History.ofList_append_cards,
          appliedSinceDeal_concat _ _ again, List.reverse_append,
          List.append_assoc]
        simp only [same]
        cases applied? ((game.afterMoves moves).perform move) <;> rfl

end Game

/-! ## Histories in texts -/

namespace History

/-- A list of cards that may be left out is read as its first ten cards. -/
theorem withDefault_read (listed : Option Json) :
    Wire.withDefault empty listed =
      (Wire.withDefault [] listed).map ofList := by
  cases listed <;> rfl

/-- Whatever text is read as a list of cards is read as a history, and this is
written as the first ten of the cards. -/
theorem written_of_read {text : String} {cards : List Card}
    (listed : (Json.parse? text).bind Wire.read = some cards) :
    ∃ history : History, (Json.parse? text).bind Wire.read = some history ∧
      Wire.write history = Wire.write (cards.take limit) ∧
      (Json.parse? (Wire.write history).compact).bind Wire.read =
        some (cards.take limit) := by
  obtain ⟨value, parsed, read⟩ := Option.bind_eq_some_iff.mp listed
  refine ⟨ofList cards, ?_, rfl, ?_⟩
  · rw [parsed]
    show (Wire.read value).map ofList = some (ofList cards)
    rw [read, Option.map_some]
  · rw [Json.parse?_compact (LawfulWire.plain_write _)]
    exact LawfulWire.read_write (cards.take limit)

end History

namespace SavedGame

/-- The cards that a text lists as the history of a saved game; none where the
history is left out. -/
def listedHistory? (text : String) : Option (List Card) := do
  let value ← Json.parse? text
  match ← value.fields? ["version", "tokens", "stability", "deck", "history",
      "pending", "status", "journal", "turn", "content_signature"] with
  | [_, _, _, _, listed, _, _, _, _, _] => Wire.withDefault [] listed
  | _ => none

theorem listedHistory?_written (history : List Card) (saved : SavedGame) :
    listedHistory? (written history saved).indented = some history := by
  unfold listedHistory?
  rw [Json.parse?_indented (plain_written history saved)]
  simp [fields?_written]

/-- A saved game that is taken back has the first ten of the cards that its text
lists. -/
theorem history_ofText {text : String} {saved : SavedGame}
    (taken : ofText text = .ok saved) :
    ∃ listed, listedHistory? text = some listed ∧
      saved.history = History.ofList listed := by
  obtain ⟨spelled, -, -⟩ := ofText_eq_ok_iff.mp taken
  obtain ⟨value, parsed, read⟩ := Option.bind_eq_some_iff.mp spelled
  obtain ⟨fields, found, rest⟩ := Option.bind_eq_some_iff.mp read
  unfold listedHistory?
  rw [parsed]
  simp only [Option.bind_eq_bind, Option.bind_some, found]
  split at rest
  case h_1 =>
    simp only [Option.bind_eq_bind, Option.bind_eq_some_iff] at rest
    obtain ⟨_, _, _, _, _, _, _, _, history, cut, _, _, _, _, _, _, _, _, _, _,
      same⟩ := rest
    rw [History.withDefault_read] at cut
    obtain ⟨listed, reads, rfl⟩ := Option.map_eq_some_iff.mp cut
    cases same
    exact ⟨listed, reads, rfl⟩
  case h_2 => cases rest

end SavedGame

namespace Game

variable {σ : Type} [RandomSource σ]

/-- The history is the last ten.  At any time in a game it has the first ten of
the cards applied since the last new deal, the latest first, followed by the
history that the game was gone on with unless there was a new deal since.  That
history is the saved one, with the first ten of the cards that a text lists for
it.  And any list of cards that is read as a history is written as its first ten
cards. -/
theorem history_last_ten (content : Content) (source : σ) :
    (∀ moves : List Move,
      let fresh := start content source
      (fresh.afterMoves moves).history.cards =
        (fresh.appliedSinceDeal moves).reverse.take 10) ∧
      (∀ (saved : SavedGame) (resumed : Game σ),
        resume content saved source = .ok resumed →
          resumed.history = saved.history ∧
            ∀ moves : List Move,
              (resumed.afterMoves moves).history.cards =
                ((resumed.appliedSinceDeal moves).reverse
                    ++ if .restart ∈ moves then []
                      else resumed.history.cards).take 10) ∧
      (∀ (text : String) (saved : SavedGame),
        SavedGame.ofText text = .ok saved →
          ∃ listed, SavedGame.listedHistory? text = some listed ∧
            saved.history.cards = listed.take 10) ∧
      ∀ (text : String) (cards : List Card),
        (Json.parse? text).bind Wire.read = some cards →
          ∃ history : History,
            (Json.parse? text).bind Wire.read = some history ∧
              Wire.write history = Wire.write (cards.take 10) ∧
              (Json.parse? (Wire.write history).compact).bind Wire.read =
                some (cards.take 10) := by
  refine ⟨?_, ?_, ?_, fun text cards listed => History.written_of_read listed⟩
  · intro moves fresh
    have whole := history_afterMoves fresh moves
    have empty : fresh.history.cards = [] := rfl
    rw [empty, ite_self, List.append_nil] at whole
    exact congrArg History.cards whole
  · intro saved resumed resumes
    refine ⟨?_, fun moves =>
      congrArg History.cards (history_afterMoves resumed moves)⟩
    obtain ⟨-, -, rfl⟩ := resume_eq_ok_iff.mp resumes
    rfl
  · intro text saved taken
    obtain ⟨listed, found, cut⟩ := SavedGame.history_ofText taken
    exact ⟨listed, found, congrArg History.cards cut⟩

/-- A text that lists eleven cards is gone on with.  Two cards later the first
eight of them are left behind these, and after a new deal none. -/
theorem history_last_ten_resumed :
    let text := (SavedGame.written (Card.all.take 11)
      SavedGame.secondTurn).indented
    SavedGame.listedHistory? text = some (Card.all.take 11) ∧
      (∃ saved resumed, SavedGame.ofText text = .ok saved ∧
        resume Content.practice saved Loaded.threes = .ok resumed ∧
        saved.history.cards = Card.all.take 10 ∧
        (resumed.afterMoves [.resolve, .draw, .resolve]).history.cards =
          ⟨.hearts, .two⟩ :: ⟨.clubs, .king⟩ :: Card.all.take 8 ∧
        (resumed.afterMoves [.resolve, .restart]).history.cards = []) ∧
      ∃ history : History,
        (Json.parse? (Wire.write (Card.all.take 11)).compact).bind Wire.read =
            some history ∧
          Wire.write history = Wire.write (Card.all.take 10) := by
  intro text
  have listed : SavedGame.listedHistory? text = some (Card.all.take 11) :=
    SavedGame.listedHistory?_written _ _
  have taken : SavedGame.ofText text =
      .ok { SavedGame.secondTurn with
        history := History.ofList (Card.all.take 11) } :=
    SavedGame.ofText_eq_ok_iff.mpr
      ⟨SavedGame.read_indented _ _, rfl, by decide⟩
  have resumes := @resume_eq_ok_iff _ Content.practice _ Loaded.threes _ |>.mpr
    ⟨.inl rfl, SavedGame.ofText_eq_ok_iff.mp taken |>.2.2, rfl⟩
  obtain ⟨-, goesOn, read, codec⟩ :=
    history_last_ten Content.practice Loaded.threes
  obtain ⟨same, runs⟩ := goesOn _ _ resumes
  obtain ⟨cards, found, cut⟩ := read _ _ taken
  cases listed.symm.trans found
  obtain ⟨history, reads, writes, -⟩ := codec
    (Wire.write (Card.all.take 11)).compact (Card.all.take 11)
    (by rw [Json.parse?_compact (LawfulWire.plain_write _)]
        exact LawfulWire.read_write _)
  refine ⟨listed, ⟨_, _, taken, resumes, cut, ?_, ?_⟩, history, reads, writes⟩
  · rw [runs]
    decide +kernel
  · rw [runs]
    decide +kernel

end Game

end SoloJournal
