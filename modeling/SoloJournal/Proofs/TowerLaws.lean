import SoloJournal.Proofs.Pulls

/-!
# Laws of the tower

Pulls can be stopped anywhere and gone on with: made in two goes they are the
same pulls, with the same dice.  And on the same dice a weaker tower under
stricter thresholds never comes out ahead, because the dice of the weaker tower
are the first of the stronger one, and whatever spares a block under the
stricter threshold spares it under the milder one.
-/

namespace SoloJournal

/-! ## Pulls in several goes -/

namespace Tower

variable {source : Type} [RandomSource source]

/-- At a fallen tower no pull is made. -/
theorem pullMany_of_fallen (thresholds : Thresholds) (count : Nat)
    {ledger : Ledger} (state : source) (fallen : ledger.stability = 0) :
    pullMany thresholds count ledger state = (0, [], ledger, state) := by
  cases count with
  | zero => rfl
  | succ count => rw [pullMany, if_pos fallen]

/-- Up to `count` further pulls after those that have come to a result. -/
def pullOn (thresholds : Thresholds) (count : Nat)
    (result : Nat × List Event × Ledger × source) :
    Nat × List Event × Ledger × source :=
  let further := pullMany thresholds count result.2.2.1 result.2.2.2
  (result.1 + further.1, result.2.1 ++ further.2.1, further.2.2)

/-- What has been lost and told before stays in front. -/
theorem pullOn_after (thresholds : Thresholds) (count lost : Nat)
    (events : List Event) (result : Nat × List Event × Ledger × source) :
    pullOn thresholds count
        (lost + result.1, events ++ result.2.1, result.2.2) =
      (lost + (pullOn thresholds count result).1,
        events ++ (pullOn thresholds count result).2.1,
        (pullOn thresholds count result).2.2) := by
  simp only [pullOn, Nat.add_assoc, List.append_assoc]

/-- Pulls made in two goes are the same as in one. -/
theorem pullMany_add (thresholds : Thresholds) (first second : Nat)
    (ledger : Ledger) (state : source) :
    pullMany thresholds (first + second) ledger state =
      pullOn thresholds second (pullMany thresholds first ledger state) := by
  induction first generalizing ledger state with
  | zero => simp [pullMany, pullOn]
  | succ first induction =>
      by_cases fallen : ledger.stability = 0
      · have nothing := fun count =>
          pullMany_of_fallen thresholds count state fallen
        simp [pullOn, nothing]
      · -- the first pull is the same, and the others come after it
        rw [Nat.succ_add, pullMany_succ thresholds _ state fallen, induction,
          pullMany_succ thresholds _ state fallen, pullOn_after]

/-- What the pulls cost and what they leave make up the stability before. -/
theorem lost_add_stability_pullMany (thresholds : Thresholds) (count : Nat)
    (ledger : Ledger) (state : source) :
    let result := pullMany thresholds count ledger state
    result.1 + result.2.2.1.stability.toNat = ledger.stability.toNat := by
  intro result
  obtain ⟨made, course⟩ := course_pullMany thresholds count ledger state
  rw [show result.1 = _ from course.lost_eq]
  exact course.descends.sum_lost_add

theorem stability_pullMany_le (thresholds : Thresholds) (count : Nat)
    (ledger : Ledger) (state : source) :
    (pullMany thresholds count ledger state).2.2.1.stability ≤
      ledger.stability := by
  have whole := lost_add_stability_pullMany thresholds count ledger state
  rw [UInt32.le_iff_toNat_le, ← whole]
  exact Nat.le_add_left _ _

/-- Pulls that end right after the one that brings the tower down, and not only
where the next one finds it fallen. -/
def pullUntilFallen (thresholds : Thresholds) : Nat → Ledger → source →
    Nat × List Event × Ledger × source
  | 0, ledger, state => (0, [], ledger, state)
  | count + 1, ledger, state =>
    if ledger.stability = 0 then (0, [], ledger, state)
    else
      let (pull, state) := pull ledger.stability thresholds state
      let (change, ledger) := ledger.loseStability pull.lost
      if change.after = 0 then
        (pull.lost.toNat, pullEvents pull change, ledger, state)
      else
        let (lost, events, ledger, state) :=
          pullUntilFallen thresholds count ledger state
        (pull.lost.toNat + lost, pullEvents pull change ++ events, ledger, state)

/-- It makes no difference whether the fall is seen after the pull or before the
next one. -/
theorem pullUntilFallen_eq (thresholds : Thresholds) (count : Nat)
    (ledger : Ledger) (state : source) :
    pullUntilFallen thresholds count ledger state =
      pullMany thresholds count ledger state := by
  induction count generalizing ledger state with
  | zero => rfl
  | succ count induction =>
      rw [pullUntilFallen, pullMany]
      by_cases fallen : ledger.stability = 0
      · rw [if_pos fallen, if_pos fallen]
      · rw [if_neg fallen, if_neg fallen]
        simp only [induction]
        split
        case isTrue falls =>
          let made := pull ledger.stability thresholds state
          let left := (ledger.loseStability made.1.lost).2
          have nothing :
              pullMany thresholds count left made.2 = (0, [], left, made.2) :=
            pullMany_of_fallen thresholds count made.2 falls
          rw [nothing, Nat.add_zero, List.append_nil]
        case isFalse => rfl

/-- Pulls compose.  Made in two goes, they leave the same ledger and the same
source of chance as in one, tell the same events and cost the same blocks in
all.  More pulls never leave more stability.  Once the tower has fallen no dice
are taken and nothing is told, and so nothing depends on whether the pulls end
right after the fall or before the next pull. -/
theorem pulls_compose (thresholds : Thresholds) (first second : Nat)
    (ledger : Ledger) (state : source) :
    let begun := pullMany thresholds first ledger state
    let further := pullMany thresholds second begun.2.2.1 begun.2.2.2
    let whole := pullMany thresholds (first + second) ledger state
    whole.2.2.1 = further.2.2.1 ∧
      whole.2.2.2 = further.2.2.2 ∧
      whole.2.1 = begun.2.1 ++ further.2.1 ∧
      whole.1 = begun.1 + further.1 ∧
      begun.1 + further.1 ≤ ledger.stability.toNat ∧
      whole.2.2.1.stability ≤ begun.2.2.1.stability ∧
      (begun.2.2.1.stability = 0 →
        further = (0, [], begun.2.2.1, begun.2.2.2) ∧ whole = begun) ∧
      pullUntilFallen thresholds (first + second) ledger state = whole := by
  intro begun further whole
  have composed : whole =
      (begun.1 + further.1, begun.2.1 ++ further.2.1, further.2.2) :=
    pullMany_add thresholds first second ledger state
  have bound : whole.1 ≤ ledger.stability.toNat :=
    Nat.le.intro (lost_add_stability_pullMany thresholds _ ledger state)
  refine ⟨by rw [composed], by rw [composed], by rw [composed],
    by rw [composed], ?_, ?_, ?_, pullUntilFallen_eq _ _ _ _⟩
  · rwa [composed] at bound
  · rw [composed]
    exact stability_pullMany_le thresholds second _ _
  · intro fallen
    have nothing : further = (0, [], begun.2.2.1, begun.2.2.2) :=
      pullMany_of_fallen thresholds second begun.2.2.2 fallen
    refine ⟨nothing, ?_⟩
    rw [composed, nothing, List.append_nil]
    rfl

/-- Four pulls bring a tower of seven blocks down, and five more do nothing: the
four that is still on the dice is left for others. -/
theorem pulls_compose_fallen :
    let begun := pullMany .standard 4 ⟨5, 7⟩ fallingDice
    let further := pullMany .standard 5 begun.2.2.1 begun.2.2.2
    begun.2.2.1.stability = 0 ∧
      further = (0, [], begun.2.2.1, begun.2.2.2) ∧
      pullMany .standard 9 ⟨5, 7⟩ fallingDice = begun ∧
      begun.2.2.2.faces = [4] := by
  intro begun further
  have fallen : begun.2.2.1.stability = 0 := by decide +kernel
  obtain ⟨-, -, -, -, -, -, rests, -⟩ :=
    pulls_compose .standard 4 5 ⟨5, 7⟩ fallingDice
  obtain ⟨nothing, same⟩ := rests fallen
  exact ⟨fallen, nothing, same, by decide +kernel⟩

end Tower

/-! ## Two towers on the same dice -/

namespace Band

/-- A weaker tower under stricter thresholds has the higher failure threshold,
whichever of the two thresholds is the larger. -/
theorem threshold_ofStability_le {weaker stronger : UInt32}
    {strict mild : Thresholds} (weak : weaker ≤ stronger)
    (danger : mild.danger ≤ strict.danger)
    (critical : mild.critical ≤ strict.critical) :
    (ofStability stronger mild).threshold ≤
      (ofStability weaker strict).threshold := by
  have ordered : (1 : UInt8) ≤ 2 ∧ (1 : UInt8) ≤ 3 ∧ (2 : UInt8) ≤ 3 := by
    decide
  unfold ofStability
  by_cases criticalStronger : stronger ≤ mild.critical
  · have criticalWeaker : weaker ≤ strict.critical :=
      UInt32.le_trans weak (UInt32.le_trans criticalStronger critical)
    rw [if_pos criticalStronger, if_pos criticalWeaker]
    exact UInt8.le_refl _
  rw [if_neg criticalStronger]
  by_cases dangerStronger : stronger ≤ mild.danger
  · have dangerWeaker : weaker ≤ strict.danger :=
      UInt32.le_trans weak (UInt32.le_trans dangerStronger danger)
    rw [if_pos dangerStronger, if_pos dangerWeaker]
    split
    · exact ordered.2.2
    · exact UInt8.le_refl _
  rw [if_neg dangerStronger]
  split
  · exact ordered.2.1
  · split
    · exact ordered.1
    · exact UInt8.le_refl _

end Band

theorem RandomSource.rollDice_prefix {source : Type} [RandomSource source]
    {fewer more : Nat} (few : fewer ≤ more) (state : source) :
    (rollDice fewer state).1 <+: (rollDice more state).1 := by
  obtain ⟨further, rfl⟩ := Nat.exists_eq_add_of_le few
  rw [rollDice_add]
  exact List.prefix_append _ _

namespace PullAt

/-- The blocks that a fair pull leaves are the dice above its threshold. -/
theorem Fair.left_eq {thresholds : Thresholds} {pulled : PullAt}
    (fair : pulled.Fair thresholds) :
    pulled.left.toNat =
      pulled.pull.rolls.countP (fun face => pulled.pull.threshold < face) := by
  have whole := fair.lost_add_left
  have dice := List.length_eq_countP_add_countP
    (fun face => decide (face ≤ pulled.pull.threshold)) (l := pulled.pull.rolls)
  simp only [decide_eq_true_eq, UInt8.not_le] at dice
  rw [fair.lost_eq, ← fair.length_rolls, dice] at whole
  exact Nat.add_left_cancel whole

end PullAt

namespace Tower

variable {source : Type} [RandomSource source]

theorem lost_le_of_threshold_le (stability : UInt32) (mild strict : Thresholds)
    (state : source)
    (higher : (pull stability mild state).1.threshold ≤
      (pull stability strict state).1.threshold) :
    (pull stability mild state).1.lost ≤ (pull stability strict state).1.lost := by
  have better := (fair_pullAt mild stability state).lost_eq
  have worse := (fair_pullAt strict stability state).lost_eq
  rw [UInt32.le_iff_toNat_le]
  show (pullAt mild stability state).pull.lost.toNat ≤
    (pullAt strict stability state).pull.lost.toNat
  rw [better, worse]
  apply List.countP_mono_left
  intro face rolled costs
  simp only [decide_eq_true_eq] at costs ⊢
  exact UInt8.le_trans costs higher

theorem left_le_of_weaker {weaker stronger : UInt32} {strict mild : Thresholds}
    (weak : weaker ≤ stronger) (state : source)
    (higher : (pull stronger mild state).1.threshold ≤
      (pull weaker strict state).1.threshold) :
    (pullAt strict weaker state).left ≤ (pullAt mild stronger state).left := by
  rw [UInt32.le_iff_toNat_le, (fair_pullAt strict weaker state).left_eq,
    (fair_pullAt mild stronger state).left_eq]
  calc
    (pullAt strict weaker state).pull.rolls.countP
          (fun face => (pullAt strict weaker state).pull.threshold < face)
      ≤ (pullAt strict weaker state).pull.rolls.countP
          (fun face => (pullAt mild stronger state).pull.threshold < face) := by
        apply List.countP_mono_left
        intro face rolled spared
        simp only [decide_eq_true_eq] at spared ⊢
        exact UInt8.lt_of_le_of_lt higher spared
    _ ≤ (pullAt mild stronger state).pull.rolls.countP
          (fun face => (pullAt mild stronger state).pull.threshold < face) :=
        -- the stronger tower goes on rolling where the weaker one ends
        (RandomSource.rollDice_prefix (UInt32.le_iff_toNat_le.mp weak)
          state).sublist.countP_le

/-- Risk only grows.  On the same dice, a tower that is no stronger, under
thresholds that are no milder, is pulled at with a threshold that is no lower,
begins with the dice of the other one, and is left with no more blocks than it.
It does not matter which of its two thresholds is the larger.  And at the same
stability the higher threshold costs no fewer blocks. -/
theorem risk_escalates (state : source) :
    (∀ (weaker stronger : UInt32) (strict mild : Thresholds),
      weaker ≤ stronger → mild.danger ≤ strict.danger →
        mild.critical ≤ strict.critical →
          let worse := (pull weaker strict state).1
          let better := (pull stronger mild state).1
          better.threshold ≤ worse.threshold ∧
            worse.rolls <+: better.rolls ∧
            worse.lost ≤ weaker ∧ better.lost ≤ stronger ∧
            weaker - worse.lost ≤ stronger - better.lost) ∧
      ∀ (stability : UInt32) (mild strict : Thresholds),
        (pull stability mild state).1.threshold ≤
            (pull stability strict state).1.threshold →
          (pull stability mild state).1.lost ≤
            (pull stability strict state).1.lost := by
  constructor
  · intro weaker stronger strict mild weak danger critical worse better
    have higher : better.threshold ≤ worse.threshold :=
      Band.threshold_ofStability_le weak danger critical
    exact ⟨higher,
      RandomSource.rollDice_prefix (UInt32.le_iff_toNat_le.mp weak) state,
      (fair_pullAt strict weaker state).lost_le,
      (fair_pullAt mild stronger state).lost_le,
      left_le_of_weaker weak state higher⟩
  · intro stability mild strict higher
    exact lost_le_of_threshold_le stability mild strict state higher

/-- Thresholds of which the critical one is the larger make a tower of three
blocks critical, which loses one of them, while under the usual ones a tower of
five is in danger and loses two.  Still the first has fewer left, and under the
same thresholds the second would lose three. -/
theorem risk_escalates_inverted :
    let dice := Scripted.ofFaces [4, 5, 3, 2, 1]
    let inverted : Thresholds := { danger := 5, critical := 8 }
    let worse := (pull 3 inverted dice).1
    let better := (pull 5 .standard dice).1
    worse.lost = 1 ∧ better.lost = 2 ∧ (pull 5 inverted dice).1.lost = 3 ∧
      better.threshold ≤ worse.threshold ∧ worse.rolls <+: better.rolls ∧
      3 - worse.lost ≤ 5 - better.lost ∧
      better.lost ≤ (pull 5 inverted dice).1.lost := by
  intro dice inverted worse better
  have costs : worse.lost = 1 ∧ better.lost = 2 ∧
      (pull 5 inverted dice).1.lost = 3 := by decide +kernel
  obtain ⟨compared, dearer⟩ := risk_escalates dice
  obtain ⟨higher, begins, -, -, fewer⟩ := compared 3 5 inverted .standard
    (by decide) (by decide) (by decide)
  exact ⟨costs.1, costs.2.1, costs.2.2, higher, begins, fewer,
    dearer 5 .standard inverted (by decide +kernel)⟩

end Tower

end SoloJournal
