import Mathlib
import SoloJournal.Chance.Scripted
import SoloJournal.Proofs.Counters

/-!
# Pulls from end to end

`PullAt` is a pull together with the stability it is made at, which is what an
event tells of it.  `Descends` follows a list of such pulls down the tower: each
is made with the dice and the threshold of its own stability and leaves the
stability for the next.  Many pulls in a row tell just such a list, and they
take the next dice of their source for it, one for each block that stands.
-/

namespace SoloJournal

namespace RandomSource

variable {source : Type} [RandomSource source]

theorem rollOnto_eq (count : Nat) (rolled : List UInt8) (state : source) :
    rollOnto count rolled state =
      (rolled.reverse ++ (rollDice count state).1, (rollDice count state).2) := by
  induction count generalizing rolled state with
  | zero => simp [rollDice, rollOnto]
  | succ count induction =>
      simp only [rollDice, rollOnto]
      rw [induction, induction [(rollDie state).1]]
      simp

theorem rollDice_succ (count : Nat) (state : source) :
    rollDice (count + 1) state =
      ((rollDie state).1 :: (rollDice count (rollDie state).2).1,
        (rollDice count (rollDie state).2).2) := by
  simp only [rollDice, rollOnto]
  rw [rollOnto_eq]
  rfl

theorem length_rollDice (count : Nat) (state : source) :
    (rollDice count state).1.length = count := by
  induction count generalizing state with
  | zero => rfl
  | succ count induction => rw [rollDice_succ, List.length_cons, induction]

/-- Dice rolled in two goes are the same dice. -/
theorem rollDice_add (first second : Nat) (state : source) :
    rollDice (first + second) state =
      ((rollDice first state).1 ++ (rollDice second (rollDice first state).2).1,
        (rollDice second (rollDice first state).2).2) := by
  induction first generalizing state with
  | zero => rw [Nat.zero_add]; rfl
  | succ first induction =>
      rw [Nat.succ_add, rollDice_succ, induction, rollDice_succ]
      rfl

end RandomSource

/-- A pull and the stability at which it is made. -/
structure PullAt where
  stability : UInt32
  pull : Pull
  deriving DecidableEq

namespace PullAt

/-- The stability that the pull leaves. -/
def left (pulled : PullAt) : UInt32 :=
  pulled.stability - pulled.pull.lost

def ofEvent? : Event → Option PullAt
  | .pulled stability threshold rolls lost =>
      some { stability, pull := { threshold, rolls, lost } }
  | _ => none

/-- The pull itself, and the change of the stability when blocks are lost. -/
def events (pulled : PullAt) : List Event :=
  .pulled pulled.stability pulled.pull.threshold pulled.pull.rolls
      pulled.pull.lost
    :: (if 0 < pulled.pull.lost then
        [.stabilityChanged ⟨pulled.stability, pulled.left⟩] else [])

/-- One die for each block that stands, and a block lost for each die at or
under the threshold that goes with the stability. -/
structure Fair (thresholds : Thresholds) (pulled : PullAt) : Prop where
  length_rolls : pulled.pull.rolls.length = pulled.stability.toNat
  threshold_eq : pulled.pull.threshold =
    (Band.ofStability pulled.stability thresholds).threshold
  lost_eq : pulled.pull.lost.toNat =
    pulled.pull.rolls.countP (fun face => face ≤ pulled.pull.threshold)

theorem Fair.lost_le {thresholds : Thresholds} {pulled : PullAt}
    (fair : pulled.Fair thresholds) :
    pulled.pull.lost ≤ pulled.stability := by
  rw [UInt32.le_iff_toNat_le, fair.lost_eq, ← fair.length_rolls]
  exact List.countP_le_length

theorem Fair.lost_add_left {thresholds : Thresholds} {pulled : PullAt}
    (fair : pulled.Fair thresholds) :
    pulled.pull.lost.toNat + pulled.left.toNat = pulled.stability.toNat := by
  have lost := UInt32.le_iff_toNat_le.mp fair.lost_le
  rw [left, UInt32.toNat_sub_of_le _ _ fair.lost_le]
  omega

theorem ofEvent?_events (pulled : PullAt) :
    pulled.events.filterMap ofEvent? = [pulled] := by
  unfold events
  split <;> rfl

/-- Pulls are known from the events that they tell. -/
theorem ofEvent?_flatMap_events (pulls : List PullAt) :
    (pulls.flatMap events).filterMap ofEvent? = pulls := by
  induction pulls with
  | nil => rfl
  | cons pulled pulls induction =>
      rw [List.flatMap_cons, List.filterMap_append, ofEvent?_events, induction,
        List.singleton_append]

end PullAt

namespace Tower

/-- From a stability, the pulls lead down to a last one. -/
inductive Descends (thresholds : Thresholds) :
    UInt32 → List PullAt → UInt32 → Prop where
  | rests {stability : UInt32} : Descends thresholds stability [] stability
  | falls {pulled : PullAt} {later : List PullAt} {last : UInt32} :
      pulled.stability ≠ 0 →
      pulled.Fair thresholds →
      Descends thresholds pulled.left later last →
      Descends thresholds pulled.stability (pulled :: later) last

namespace Descends

variable {thresholds : Thresholds} {stability last : UInt32}
  {pulls : List PullAt}

theorem head?_stability (descends : Descends thresholds stability pulls last)
    {first : PullAt} (leads : pulls.head? = some first) :
    first.stability = stability := by
  cases descends with
  | rests => cases leads
  | falls =>
      cases leads
      rfl

theorem isChain (descends : Descends thresholds stability pulls last) :
    pulls.IsChain (fun earlier later => later.stability = earlier.left) := by
  induction descends with
  | rests => exact .nil
  | falls standing fair descends induction =>
      apply List.isChain_cons.mpr
      constructor
      · intro next leads
        exact descends.head?_stability leads
      · exact induction

theorem fair (descends : Descends thresholds stability pulls last) :
    ∀ pulled ∈ pulls, pulled.stability ≠ 0 ∧ pulled.Fair thresholds := by
  induction descends with
  | rests => simp
  | falls standing fair descends induction =>
      intro pulled member
      rcases List.mem_cons.mp member with first | later
      · subst first
        exact ⟨standing, fair⟩
      · exact induction pulled later

/-- What is lost on the way down is what is missing at its end. -/
theorem sum_lost_add (descends : Descends thresholds stability pulls last) :
    (pulls.map (fun pulled => pulled.pull.lost.toNat)).sum + last.toNat =
      stability.toNat := by
  induction descends with
  | rests => simp
  | falls standing fair descends induction =>
      rw [List.map_cons, List.sum_cons, Nat.add_assoc, induction]
      exact fair.lost_add_left

end Descends

variable {source : Type} [RandomSource source]

/-- A pull at a stability, with the dice that the source shows next. -/
def pullAt (thresholds : Thresholds) (stability : UInt32) (state : source) :
    PullAt :=
  { stability, pull := (pull stability thresholds state).1 }

theorem fair_pullAt (thresholds : Thresholds) (stability : UInt32)
    (state : source) : (pullAt thresholds stability state).Fair thresholds where
  length_rolls := RandomSource.length_rollDice _ _
  threshold_eq := rfl
  lost_eq := by
    apply UInt32.toNat_ofNat_of_lt'
    have rolls : (RandomSource.rollDice stability.toNat state).1.length =
        stability.toNat :=
      RandomSource.length_rollDice _ _
    apply Nat.lt_of_le_of_lt List.countP_le_length
    exact Nat.lt_of_le_of_lt (Nat.le_of_eq rolls) stability.toNat_lt_size

theorem rollDice_pullAt (thresholds : Thresholds) (stability : UInt32)
    (state : source) :
    RandomSource.rollDice stability.toNat state =
      ((pullAt thresholds stability state).pull.rolls,
        (pull stability thresholds state).2) :=
  rfl

/-- A loss that the tower can bear leaves the rest of it. -/
theorem loseStability_pullAt (thresholds : Thresholds) (ledger : Ledger)
    (state : source) :
    let pulled := pullAt thresholds ledger.stability state
    ledger.loseStability pulled.pull.lost =
      (⟨pulled.stability, pulled.left⟩,
        { ledger with stability := pulled.left }) := by
  intro pulled
  have lost : pulled.pull.lost ≤ ledger.stability :=
    (fair_pullAt thresholds ledger.stability state).lost_le
  unfold Ledger.loseStability Ledger.remainingStability
  rw [if_pos lost]
  rfl

theorem pullEvents_pullAt (thresholds : Thresholds) (stability : UInt32)
    (state : source) :
    let pulled := pullAt thresholds stability state
    pullEvents pulled.pull ⟨pulled.stability, pulled.left⟩ = pulled.events := by
  intro pulled
  have fair : pulled.Fair thresholds := fair_pullAt thresholds stability state
  have real : (pulled.stability ≠ pulled.left) ↔ 0 < pulled.pull.lost := by
    rw [UInt32.lt_iff_toNat_lt, ne_eq, ← UInt32.toNat_inj,
      ← fair.lost_add_left, UInt32.toNat_zero]
    omega
  unfold pullEvents PullAt.events Change.isReal
  simp only [bne_iff_ne, real]

/-- At a tower that stands, the first pull is made with its stability and the
others with what it leaves. -/
theorem pullMany_succ (thresholds : Thresholds) (count : Nat) {ledger : Ledger}
    (state : source) (standing : ledger.stability ≠ 0) :
    let pulled := pullAt thresholds ledger.stability state
    let later := pullMany thresholds count
      { ledger with stability := pulled.left }
      (pull ledger.stability thresholds state).2
    pullMany thresholds (count + 1) ledger state =
      (pulled.pull.lost.toNat + later.1, pulled.events ++ later.2.1,
        later.2.2) := by
  intro pulled later
  have lose : ledger.loseStability pulled.pull.lost =
      (⟨pulled.stability, pulled.left⟩,
        { ledger with stability := pulled.left }) :=
    loseStability_pullAt thresholds ledger state
  have told : pullEvents pulled.pull ⟨pulled.stability, pulled.left⟩ =
      pulled.events :=
    pullEvents_pullAt thresholds ledger.stability state
  rw [pullMany, if_neg standing]
  show (let after := ledger.loseStability pulled.pull.lost
    let later := pullMany thresholds count after.2
      (pull ledger.stability thresholds state).2
    (pulled.pull.lost.toNat + later.1,
      pullEvents pulled.pull after.1 ++ later.2.1, later.2.2)) = _
  rw [lose]
  simp only [told]
  rfl

/-- All that many pulls in a row come to. -/
structure Course (thresholds : Thresholds) (count : Nat) (ledger : Ledger)
    (state : source) (pulls : List PullAt)
    (result : Nat × List Event × Ledger × source) : Prop where
  descends : Descends thresholds ledger.stability pulls result.2.2.1.stability
  events_eq : result.2.1 = pulls.flatMap PullAt.events
  length_le : pulls.length ≤ count
  length_eq : pulls.length = count ∨ result.2.2.1.stability = 0
  rollDice_eq :
    RandomSource.rollDice
        (pulls.map (fun pulled => pulled.stability.toNat)).sum state =
      (pulls.flatMap (fun pulled => pulled.pull.rolls), result.2.2.2)
  lost_eq : result.1 =
    (pulls.map (fun pulled => pulled.pull.lost.toNat)).sum

theorem Course.none (thresholds : Thresholds) {count : Nat} {ledger : Ledger}
    (state : source) (ends : 0 = count ∨ ledger.stability = 0) :
    Course thresholds count ledger state [] (0, [], ledger, state) where
  descends := .rests
  events_eq := rfl
  length_le := Nat.zero_le count
  length_eq := ends
  rollDice_eq := rfl
  lost_eq := rfl

/-- One more pull in front of the others. -/
theorem Course.cons {thresholds : Thresholds} {count : Nat} {ledger : Ledger}
    {state : source} {pulls : List PullAt}
    {result : Nat × List Event × Ledger × source}
    (standing : ledger.stability ≠ 0) :
    let pulled := pullAt thresholds ledger.stability state
    Course thresholds count { ledger with stability := pulled.left }
        (pull ledger.stability thresholds state).2 pulls result →
      Course thresholds (count + 1) ledger state (pulled :: pulls)
        (pulled.pull.lost.toNat + result.1, pulled.events ++ result.2.1,
          result.2.2) := by
  intro pulled course
  exact {
    descends :=
      .falls standing (fair_pullAt thresholds ledger.stability state)
        course.descends
    events_eq := by rw [List.flatMap_cons, course.events_eq]
    length_le := Nat.succ_le_succ course.length_le
    length_eq := course.length_eq.imp (congrArg Nat.succ) id
    rollDice_eq := by
      have dice : RandomSource.rollDice pulled.stability.toNat state =
          (pulled.pull.rolls, (pull ledger.stability thresholds state).2) :=
        rollDice_pullAt thresholds ledger.stability state
      rw [List.map_cons, List.sum_cons, RandomSource.rollDice_add, dice,
        course.rollDice_eq, List.flatMap_cons]
    lost_eq := by rw [List.map_cons, List.sum_cons, course.lost_eq] }

theorem course_pullMany (thresholds : Thresholds) (count : Nat)
    (ledger : Ledger) (state : source) :
    ∃ pulls, Course thresholds count ledger state pulls
      (pullMany thresholds count ledger state) := by
  induction count generalizing ledger state with
  | zero => exact ⟨[], .none thresholds state (.inl rfl)⟩
  | succ count induction =>
      by_cases fallen : ledger.stability = 0
      · rw [pullMany, if_pos fallen]
        exact ⟨[], .none thresholds state (.inr fallen)⟩
      · rw [pullMany_succ thresholds count state fallen]
        obtain ⟨pulls, course⟩ := induction
          { ledger with
            stability := (pullAt thresholds ledger.stability state).left }
          (pull ledger.stability thresholds state).2
        exact ⟨_, course.cons fallen⟩

/-- Pulls from end to end.  As many are made as are asked for, or the tower
falls.  The events tell each pull, with the change of the stability just when
blocks are lost; the first is made at the stability of the ledger and each other
one at what the pull before it has left.  Every pull is fair, and it never costs
more blocks than stand.  The dice are the next ones of the source, and no others
are taken.  The blocks lost in all are what the stability has fallen by, and the
tokens stay. -/
theorem pulls_from_end_to_end (thresholds : Thresholds) (count : Nat)
    (ledger : Ledger) (state : source) :
    let result := pullMany thresholds count ledger state
    let events := result.2.1
    let after := result.2.2.1
    let pulls := events.filterMap PullAt.ofEvent?
    pulls.length ≤ count ∧
      (pulls.length < count → after.stability = 0) ∧
      (∀ first, pulls.head? = some first →
        first.stability = ledger.stability) ∧
      pulls.IsChain (fun earlier later => later.stability = earlier.left) ∧
      (∀ pulled, pulled ∈ pulls →
        pulled.Fair thresholds ∧ pulled.pull.lost ≤ pulled.stability) ∧
      events = pulls.flatMap PullAt.events ∧
      RandomSource.rollDice
          (pulls.map (fun pulled => pulled.stability.toNat)).sum state =
        (pulls.flatMap (fun pulled => pulled.pull.rolls), result.2.2.2) ∧
      result.1 = (pulls.map (fun pulled => pulled.pull.lost.toNat)).sum ∧
      result.1 + after.stability.toNat = ledger.stability.toNat ∧
      result.1 < UInt32.size ∧
      after.tokens = ledger.tokens := by
  intro result events after pulls
  obtain ⟨made, course⟩ := course_pullMany thresholds count ledger state
  have same : pulls = made := by
    show events.filterMap PullAt.ofEvent? = made
    rw [show events = made.flatMap PullAt.events from course.events_eq]
    exact PullAt.ofEvent?_flatMap_events made
  have fallen : result.1 + after.stability.toNat = ledger.stability.toNat := by
    rw [show result.1 = _ from course.lost_eq]
    exact course.descends.sum_lost_add
  have bound := ledger.stability.toNat_lt_size
  rw [same]
  refine ⟨course.length_le, ?_, ?_, course.descends.isChain, ?_,
    course.events_eq, course.rollDice_eq, course.lost_eq, fallen, by omega,
    pullMany_tokens thresholds count ledger state⟩
  · intro fewer
    exact course.length_eq.resolve_left (Nat.ne_of_lt fewer)
  · intro first leads
    exact course.descends.head?_stability leads
  · intro pulled member
    have fair := (course.descends.fair pulled member).2
    exact ⟨fair, fair.lost_le⟩

/-- Dice under which a tower of seven blocks falls in four pulls, the last of
which is critical; the four is left over. -/
def fallingDice : Scripted :=
  .ofFaces [1, 1, 6, 6, 6, 6, 6, 2, 2, 6, 6, 6, 3, 1, 2, 3, 4]

/-- Of nine pulls four are made.  The last is fair at the one block that is left
and takes it. -/
theorem pulls_from_end_to_end_fallen :
    let result := pullMany .standard 9 ⟨5, 7⟩ fallingDice
    let pulls := result.2.1.filterMap PullAt.ofEvent?
    let last : PullAt := { stability := 1, pull := ⟨3, [3], 1⟩ }
    pulls.length = 4 ∧ result.2.2.1.stability = 0 ∧
      last ∈ pulls ∧ last.Fair .standard ∧
      (RandomSource.rollDice 16 fallingDice).2 = result.2.2.2 := by
  intro result pulls last
  obtain ⟨-, fallen, -, -, fair, -, dice, -⟩ :=
    pulls_from_end_to_end .standard 9 ⟨5, 7⟩ fallingDice
  have four : pulls.length = 4 := by decide +kernel
  have member : last ∈ pulls := by decide +kernel
  have sixteen : (pulls.map (fun pulled => pulled.stability.toNat)).sum = 16 := by
    decide +kernel
  have fewer : pulls.length < 9 := by
    rw [four]
    decide
  rw [sixteen] at dice
  exact ⟨four, fallen fewer, member, (fair last member).1,
    congrArg Prod.snd dice⟩

end Tower

end SoloJournal
