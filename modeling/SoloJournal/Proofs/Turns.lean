import SoloJournal.Proofs.Runs

/-!
# Turns

The turn of a game is one that a die can have begun, as long as its number can
still be told from zero.  The number grows by at most one with every move, so
only runs of billions of moves get beyond it.
-/

namespace SoloJournal

namespace TurnDie

theorem isConsistent_rolled {number : UInt32} {face : UInt8}
    (positive : 0 < number) (lower : 1 ≤ face) (upper : face ≤ 6) :
    isConsistent ⟨number, face, face⟩ = true := by
  simp [isConsistent, faces, positive, lower, upper]

/-- Counting a card never makes a turn one that no die can have begun. -/
theorem isConsistent_countCard {turn : TurnDie}
    (consistent : turn.isConsistent = true) :
    turn.countCard.2.isConsistent = true := by
  by_cases closed : turn.remaining = 0
  · simpa [countCard, closed] using consistent
  · have fewer : turn.remaining - 1 ≤ turn.remaining := by
      have positive : 0 < turn.remaining := UInt8.pos_iff_ne_zero.mpr closed
      rw [UInt8.le_iff_toNat_le, UInt8.toNat_sub_of_le _ _ positive]
      omega
    simp only [isConsistent, countCard, closed, if_false, Bool.and_eq_true,
      decide_eq_true_eq] at consistent ⊢
    obtain ⟨⟨⟨lower, upper⟩, few⟩, positive⟩ := consistent
    exact ⟨⟨⟨lower, upper⟩, UInt8.le_trans fewer few⟩, positive⟩

theorem number_countCard (turn : TurnDie) :
    turn.countCard.2.number = turn.number := by
  unfold countCard
  split <;> rfl

end TurnDie

namespace Game

variable {σ : Type}

/-- The turn, if any, is one that a die can have begun. -/
def TurnConsistent (turn : Option TurnDie) : Prop :=
  ∀ die, turn = some die → die.isConsistent = true

/-- How many turns have begun. -/
def turnCount (game : Game σ) : Nat :=
  (game.turn.map (fun turn => turn.number.toNat)).getD 0

theorem turnConsistent_countCard {turn : Option TurnDie}
    (consistent : TurnConsistent turn) :
    TurnConsistent (countCard turn).2 := by
  intro die same
  cases turn with
  | none => cases same
  | some turn =>
      cases same
      exact TurnDie.isConsistent_countCard (consistent turn rfl)

theorem toNat_nextTurn {game : Game σ}
    (small : ∀ last, game.turn = some last → last.number.toNat + 1 < UInt32.size) :
    game.nextTurn.toNat = game.turnCount + 1 := by
  cases turn : game.turn with
  | none => simp [nextTurn, turnCount, turn]
  | some last =>
      have bound := small last turn
      have next : (last.number + 1).toNat = last.number.toNat + 1 := by
        rw [UInt32.toNat_add]
        exact Nat.mod_eq_of_lt bound
      simpa [nextTurn, turnCount, turn] using next

theorem nextTurn_pos {game : Game σ}
    (small : ∀ last, game.turn = some last → last.number.toNat + 1 < UInt32.size) :
    0 < game.nextTurn := by
  rw [UInt32.lt_iff_toNat_lt, toNat_nextTurn small]
  exact Nat.succ_pos _

variable [RandomSource σ]

/-- Every die that a source can roll shows one of six faces. -/
def FairDice (σ : Type) [RandomSource σ] : Prop :=
  ∀ state : σ, 1 ≤ (RandomSource.rollDie state).1 ∧
    (RandomSource.rollDie state).1 ≤ 6

theorem fairDice_of_lawful [LawfulSource σ] : FairDice σ := fun state =>
  ⟨LawfulSource.one_le_face state, LawfulSource.face_le_six state⟩

/-- A move does not begin a turn whose number is too large to be kept. -/
def CountsOn (game : Game σ) (move : Move) : Prop :=
  ∀ last next, game.turn = some last →
    (game.perform move).answer = .ok (.rolled next) →
      last.number.toNat + 1 < UInt32.size

theorem turnConsistent_perform (fair : FairDice σ) {game : Game σ}
    {move : Move} (consistent : TurnConsistent game.turn)
    (counts : CountsOn game move) :
    TurnConsistent (game.perform move).after.turn := by
  have performs := performs_perform game move
  unfold CountsOn at counts
  generalize game.perform move = outcome at performs counts
  cases performs with
  | @rolled face source active hand between die =>
      -- only here is the number new, and only a wrapped one would be zero
      have positive : 0 < game.nextTurn :=
        nextTurn_pos fun last same => counts last _ same rfl
      obtain ⟨lower, upper⟩ := fair game.source
      rw [die] at lower upper
      rintro turn ⟨⟩
      exact TurnDie.isConsistent_rolled positive lower upper
  | resolved active hand known =>
      show TurnConsistent (game.applyPrompt _ _).after.turn
      rw [applyPrompt_after active]
      exact turnConsistent_countCard consistent
  | adjusted active changed =>
      show TurnConsistent (Game.checkEnd _).2.turn
      rw [checkEnd_of_active (by exact active)]
      exact consistent
  | restarted => rintro turn ⟨⟩
  | _ => exact consistent

theorem turnConsistent_afterMoves (fair : FairDice σ) {game : Game σ}
    {moves : List Move} (consistent : TurnConsistent game.turn)
    (counted : game.Along CountsOn moves) :
    TurnConsistent (game.afterMoves moves).turn := by
  induction moves generalizing game with
  | nil => exact consistent
  | cons move moves induction =>
      obtain ⟨counts, later⟩ := counted
      exact induction (turnConsistent_perform fair consistent counts) later

/-! ## Counting turns -/

theorem turnCount_perform (game : Game σ) (move : Move) :
    (game.perform move).after.turnCount ≤ game.turnCount + 1 := by
  have performs := performs_perform game move
  generalize game.perform move = outcome at performs
  cases performs with
  | rolled =>
      show game.nextTurn.toNat ≤ game.turnCount + 1
      cases turn : game.turn with
      | none => simp [nextTurn, turnCount, turn]
      | some last =>
          have next : (last.number + 1).toNat ≤ last.number.toNat + 1 := by
            rw [UInt32.toNat_add]
            exact Nat.mod_le _ _
          simpa [nextTurn, turnCount, turn] using next
  | resolved active hand known =>
      show (game.applyPrompt _ _).after.turnCount ≤ _
      rw [applyPrompt_after active]
      cases turn : game.turn <;>
        simp [turnCount, withEffects, countCard, turn, TurnDie.number_countCard]
  | adjusted active changed =>
      show (Game.checkEnd _).2.turnCount ≤ _
      rw [checkEnd_of_active (by exact active)]
      exact Nat.le_succ _
  | restarted => exact Nat.zero_le _
  | _ => exact Nat.le_succ _

theorem countsOn_of_lt {game : Game σ} (small : game.turnCount + 1 < UInt32.size)
    (move : Move) : CountsOn game move := by
  intro last next turn rolled
  simpa [turnCount, turn] using small

/-- A run of fewer moves than there are turn numbers left counts on. -/
theorem along_countsOn {game : Game σ} {moves : List Move}
    (small : game.turnCount + moves.length < UInt32.size) :
    game.Along CountsOn moves := by
  induction moves generalizing game with
  | nil => trivial
  | cons move moves induction =>
      rw [List.length_cons] at small
      have grown := turnCount_perform game move
      exact ⟨countsOn_of_lt (by omega) move, induction (by omega)⟩

end Game

end SoloJournal
