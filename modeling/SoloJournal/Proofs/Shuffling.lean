import Mathlib
import SoloJournal.Chance.Scripted
import SoloJournal.Proofs.Deal

/-!
# Shuffling is fair

`Recorded` writes down what a source is asked and what it answers, and
`Dictated` gives answers that are written down beforehand.  A shuffle asks for
one number below each bound, from the length of the list down to two, and its
answers alone determine what it makes of the list.  Every order of a list
without repetitions is made by exactly one choice of answers, so answers that
are all equally likely make all orders equally likely.
-/

namespace SoloJournal

universe u v

/-- What a source of chance can be asked. -/
inductive Question where
  | below (bound : Nat)
  | die
  deriving DecidableEq

/-- A source of chance with a record of what it has been asked and has answered,
the earliest first. -/
structure Recorded (source : Type u) where
  state : source
  record : List (Question × Nat)

namespace Recorded

variable {source : Type u} [RandomSource source]

instance : RandomSource (Recorded source) where
  below bound recorded :=
    let (answer, state) := RandomSource.below bound recorded.state
    (answer, { state, record := recorded.record ++ [(.below bound, answer)] })
  rollDie recorded :=
    let (face, state) := RandomSource.rollDie recorded.state
    (face, { state, record := recorded.record ++ [(.die, face.toNat)] })

end Recorded

/-- A source whose numbers are given beforehand, whatever it is asked. -/
structure Dictated where
  answers : List Nat

namespace Dictated

instance : RandomSource Dictated where
  below _ state := (state.answers.headD 0, { answers := state.answers.tail })
  rollDie state := (1, state)

end Dictated

namespace Shuffling

variable {source : Type u} [RandomSource source] {item : Type v}

/-- The bounds that a shuffle asks for when it settles the places from `last`
down to one: each is the number of places not yet settled. -/
def bounds (last : Nat) : List Nat :=
  (List.range' 2 last).reverse

/-- One answer for each bound, and below it. -/
def Fit (last : Nat) (answers : List Nat) : Prop :=
  List.Forall₂ (· < ·) answers (bounds last)

/-- The answers of a source to the questions of a shuffle. -/
def answersFrom : Nat → source → List Nat
  | 0, _ => []
  | last + 1, state =>
    let (place, state) := RandomSource.below (last + 2) state
    place :: answersFrom last state

/-- Shuffles in the same way, but gives up at a place that the list does not
have. -/
def shuffleInside? : Nat → Array item → source → Option (Array item × source)
  | 0, items, state => some (items, state)
  | last + 1, items, state =>
    let (place, state) := RandomSource.below (last + 2) state
    if inside : last + 1 < items.size ∧ place < items.size then
      shuffleInside? last (items.swap (last + 1) place inside.1 inside.2) state
    else none

theorem bounds_succ (last : Nat) :
    bounds (last + 1) = (last + 2) :: bounds last := by
  rw [bounds, List.range'_1_concat, List.reverse_concat, Nat.add_comm 2 last]
  rfl

/-! ## Questions and answers -/

theorem length_answersFrom (last : Nat) (state : source) :
    (answersFrom last state).length = (bounds last).length := by
  induction last generalizing state with
  | zero => rfl
  | succ last induction =>
      rw [bounds_succ, List.length_cons, ← induction]
      rfl

/-- Recording makes no difference to a shuffle, and the record is that of its
bounds with the answers of the source. -/
theorem shuffleFrom_recorded (last : Nat) (items : Array item) (state : source)
    (record : List (Question × Nat)) :
    shuffleFrom last items (Recorded.mk state record) =
      ((shuffleFrom last items state).1,
        { state := (shuffleFrom last items state).2
          record := record ++
            ((bounds last).map .below).zip (answersFrom last state) }) := by
  induction last generalizing items state record with
  | zero => simp [shuffleFrom, bounds]
  | succ last induction =>
      have asked : shuffleFrom (last + 1) items (Recorded.mk state record) =
          shuffleFrom last
            (items.swapIfInBounds (last + 1)
              (RandomSource.below (last + 2) state).1)
            (Recorded.mk (RandomSource.below (last + 2) state).2
              (record ++ [(.below (last + 2),
                (RandomSource.below (last + 2) state).1)])) :=
        rfl
      rw [asked, induction, bounds_succ, List.append_assoc]
      rfl

theorem shuffle_recorded (items : List item) (state : source) :
    let recorded := shuffle items (Recorded.mk state [])
    (recorded.1, recorded.2.state) = shuffle items state ∧
      recorded.2.record.map Prod.fst =
        (bounds (items.length - 1)).map .below ∧
      recorded.2.record.map Prod.snd =
        answersFrom (items.length - 1) state := by
  intro recorded
  have lengths := length_answersFrom (items.length - 1) state
  simp only [recorded, shuffle, shuffleFrom_recorded, List.nil_append]
  refine ⟨trivial, ?_, ?_⟩
  · rw [List.map_fst_zip]
    rw [List.length_map, lengths]
  · rw [List.map_snd_zip]
    rw [List.length_map, lengths]

theorem shuffleFrom_dictated (last : Nat) (items : Array item)
    (state : source) :
    (shuffleFrom last items (Dictated.mk (answersFrom last state))).1 =
      (shuffleFrom last items state).1 := by
  induction last generalizing items state with
  | zero => rfl
  | succ last induction => exact induction _ _

theorem fit_answersFrom
    (keeps : ∀ (bound : Nat) (state : source), 0 < bound →
      (RandomSource.below bound state).1 < bound)
    (last : Nat) (state : source) : Fit last (answersFrom last state) := by
  induction last generalizing state with
  | zero => exact .nil
  | succ last induction =>
      rw [Fit, bounds_succ]
      exact .cons (keeps (last + 2) state (Nat.succ_pos _)) (induction _)

/-- Every place that is settled, and every place drawn for it, is one of the
list. -/
theorem shuffleInside?_eq
    (keeps : ∀ (bound : Nat) (state : source), 0 < bound →
      (RandomSource.below bound state).1 < bound)
    {last : Nat} {items : Array item} (inside : last = 0 ∨ last < items.size)
    (state : source) :
    shuffleInside? last items state = some (shuffleFrom last items state) := by
  induction last generalizing items state with
  | zero => rfl
  | succ last induction =>
      have room : last + 1 < items.size := inside.resolve_left (by omega)
      have drawn := keeps (last + 2) state (Nat.succ_pos _)
      have place : (RandomSource.below (last + 2) state).1 < items.size := by
        omega
      rw [shuffleInside?, shuffleFrom]
      simp only [room, place, and_self, dite_true, Array.swapIfInBounds_def]
      apply induction
      right
      rw [Array.size_swap]
      omega

/-! ## One order for each choice of answers -/

theorem getElem?_swapIfInBounds {items : Array item} {left right : Nat}
    (leftInside : left < items.size) (rightInside : right < items.size)
    (place : Nat) :
    (items.swapIfInBounds left right)[place]? =
      if right = place then items[left]?
      else if left = place then items[right]? else items[place]? := by
  simp only [Array.swapIfInBounds_def, leftInside, rightInside, dite_true,
    Array.getElem?_swap, Array.getElem?_eq_getElem]

theorem fit_cons_iff {last place : Nat} {answers : List Nat} :
    Fit (last + 1) (place :: answers) ↔ place < last + 2 ∧ Fit last answers := by
  rw [Fit, bounds_succ, List.forall₂_cons]
  rfl

theorem exists_of_fit {last : Nat} {answers : List Nat}
    (fit : Fit (last + 1) answers) :
    ∃ place rest, answers = place :: rest ∧ place < last + 2 ∧ Fit last rest := by
  rw [Fit, bounds_succ, List.forall₂_cons_right_iff] at fit
  obtain ⟨place, rest, below, fits, same⟩ := fit
  exact ⟨place, rest, same, below, fits⟩

/-- The places above those still to be settled keep their items. -/
theorem getElem?_shuffleFrom (items : Array item) {last : Nat}
    {answers : List Nat} (fit : Fit last answers) (room : last < items.size)
    {place : Nat} (above : last < place) :
    (shuffleFrom last items (Dictated.mk answers)).1[place]? =
      items[place]? := by
  induction last generalizing items answers with
  | zero => rfl
  | succ last induction =>
      obtain ⟨drawn, rest, rfl, below, fits⟩ := exists_of_fit fit
      have kept := induction (items.swapIfInBounds (last + 1) drawn) fits
        (by rw [Array.size_swapIfInBounds]; omega) (by omega)
      rw [getElem?_swapIfInBounds room (by omega), if_neg (by omega),
        if_neg (by omega)] at kept
      exact kept

/-- The item that the first answer draws is the one that is settled. -/
theorem getElem?_shuffleFrom_last {last drawn : Nat} {answers : List Nat}
    {items : Array item} (below : drawn < last + 2) (fit : Fit last answers)
    (room : last + 1 < items.size) :
    (shuffleFrom (last + 1) items (Dictated.mk (drawn :: answers))).1[last + 1]? =
      items[drawn]? := by
  have kept := getElem?_shuffleFrom
    (items.swapIfInBounds (last + 1) drawn) fit
    (by rw [Array.size_swapIfInBounds]; omega) (Nat.lt_succ_self last)
  rw [getElem?_swapIfInBounds room (by omega), if_pos rfl] at kept
  by_cases same : drawn = last + 1
  · rw [if_pos same] at kept
    rw [same] at kept ⊢
    exact kept
  · rw [if_neg same] at kept
    exact kept

theorem nodup_swapIfInBounds {items : Array item} (nodup : items.toList.Nodup)
    (left right : Nat) : (items.swapIfInBounds left right).toList.Nodup :=
  (swapIfInBounds_perm items left right).nodup_iff.mpr nodup

/-- Different answers make different orders of items that all differ. -/
theorem answers_eq_of_shuffleFrom_eq {last : Nat} {first second : List Nat}
    {items : Array item} (nodup : items.toList.Nodup) (room : last < items.size)
    (firstFit : Fit last first) (secondFit : Fit last second)
    (same : (shuffleFrom last items (Dictated.mk first)).1 =
      (shuffleFrom last items (Dictated.mk second)).1) :
    first = second := by
  induction last generalizing items first second with
  | zero =>
      cases firstFit
      cases secondFit
      rfl
  | succ last induction =>
      obtain ⟨drawn, rest, rfl, below, fits⟩ := exists_of_fit firstFit
      obtain ⟨other, others, rfl, otherBelow, otherFits⟩ :=
        exists_of_fit secondFit
      -- later swaps leave the settled place alone, so it shows what was drawn
      have settled : items[drawn]? = items[other]? := by
        rw [← getElem?_shuffleFrom_last below fits room, same,
          getElem?_shuffleFrom_last otherBelow otherFits room]
      have drawnSame : drawn = other := by
        have inside : drawn < items.toList.length := by
          rw [Array.length_toList]
          omega
        apply (List.getElem?_inj inside nodup).mp
        simpa using settled
      subst drawnSame
      have restSame : rest = others := by
        apply induction (nodup_swapIfInBounds nodup (last + 1) drawn) _ fits
          otherFits same
        rw [Array.size_swapIfInBounds]
        omega
      rw [restSame]

/-- The item that a target has in the last place is one of those not yet
settled. -/
theorem exists_drawn {last : Nat} {items target : Array item}
    (perm : target.toList.Perm items.toList) (nodup : items.toList.Nodup)
    (room : last < items.size)
    (settled : ∀ place, last < place → target[place]? = items[place]?) :
    ∃ drawn, drawn ≤ last ∧ items[drawn]? = target[last]? := by
  have sizes : target.size = items.size := by
    simpa using perm.length_eq
  have inside : last < target.size := sizes ▸ room
  have wanted : target[last] ∈ items.toList :=
    perm.subset (Array.getElem_mem_toList _)
  obtain ⟨drawn, within, found⟩ := List.getElem_of_mem wanted
  have same : items[drawn]? = target[last]? := by
    rw [← Array.getElem?_toList, List.getElem?_eq_getElem within, found,
      Array.getElem?_eq_getElem]
  refine ⟨drawn, ?_, same⟩
  by_contra late
  -- the target would have the item in two places
  have twice : target.toList[drawn]? = target.toList[last]? := by
    simpa using (settled drawn (by omega)).trans same
  have targetNodup : target.toList.Nodup := perm.nodup_iff.mpr nodup
  have place : drawn = last := by
    apply (List.getElem?_inj _ targetNodup).mp twice
    rw [perm.length_eq]
    exact within
  omega

/-- Once the drawn item is in its place, that place is settled too. -/
theorem settled_swapIfInBounds {last drawn : Nat} {items target : Array item}
    (room : last + 1 < items.size) (below : drawn ≤ last + 1)
    (same : items[drawn]? = target[last + 1]?)
    (settled : ∀ place, last + 1 < place → target[place]? = items[place]?)
    {place : Nat} (above : last < place) :
    target[place]? = (items.swapIfInBounds (last + 1) drawn)[place]? := by
  rw [getElem?_swapIfInBounds room (Nat.lt_of_le_of_lt below room)]
  split
  case isTrue here =>
    obtain rfl : place = last + 1 := by omega
    rw [← same, here]
  case isFalse =>
    split
    case isTrue here => rw [← here, same]
    case isFalse => exact settled place (by omega)

/-- Every order that differs only in the places up to `last` is made by some
answers. -/
theorem exists_answers {last : Nat} (items : Array item) {target : Array item}
    (perm : target.toList.Perm items.toList) (nodup : items.toList.Nodup)
    (room : last < items.size)
    (settled : ∀ place, last < place → target[place]? = items[place]?) :
    ∃ answers, Fit last answers ∧
      (shuffleFrom last items (Dictated.mk answers)).1 = target := by
  induction last generalizing items with
  | zero =>
      obtain ⟨drawn, first, same⟩ := exists_drawn perm nodup room settled
      obtain rfl : drawn = 0 := Nat.le_zero.mp first
      refine ⟨[], .nil, Array.ext_getElem? fun place => ?_⟩
      rcases Nat.eq_zero_or_pos place with zero | positive
      · rw [zero]
        exact same
      · exact (settled place positive).symm
  | succ last induction =>
      obtain ⟨drawn, below, same⟩ := exists_drawn perm nodup room settled
      have swapped := swapIfInBounds_perm items (last + 1) drawn
      obtain ⟨answers, fit, made⟩ := induction
        (items.swapIfInBounds (last + 1) drawn) (perm.trans swapped.symm)
        (nodup_swapIfInBounds nodup (last + 1) drawn)
        (by rw [Array.size_swapIfInBounds]; omega)
        (fun _ above => settled_swapIfInBounds room below same settled above)
      exact ⟨drawn :: answers, fit_cons_iff.mpr ⟨by omega, fit⟩, made⟩

/-! ## Answers that are all equally likely -/

open scoped Nat

/-- Independent answers, each equally likely among the numbers below its
bound. -/
noncomputable def uniformAnswers : Nat → PMF (List Nat)
  | 0 => PMF.pure []
  | last + 1 =>
    (PMF.uniformOfFinset (Finset.range (last + 2)) Finset.nonempty_range_add_one).bind
      fun place => (uniformAnswers last).map (place :: ·)

theorem fit_of_mem_support {last : Nat} {answers : List Nat}
    (possible : answers ∈ (uniformAnswers last).support) : Fit last answers := by
  induction last generalizing answers with
  | zero =>
      rw [uniformAnswers, PMF.mem_support_pure_iff] at possible
      subst possible
      exact .nil
  | succ last induction =>
      rw [uniformAnswers, PMF.mem_support_bind_iff] at possible
      obtain ⟨place, drawn, possible⟩ := possible
      rw [PMF.mem_support_map_iff] at possible
      obtain ⟨rest, likely, rfl⟩ := possible
      have below : place < last + 2 := by simpa using drawn
      exact fit_cons_iff.mpr ⟨below, induction likely⟩

theorem map_cons_apply (answers : PMF (List Nat)) (place other : Nat)
    (rest : List Nat) :
    answers.map (place :: ·) (other :: rest) =
      if other = place then answers rest else 0 := by
  rw [PMF.map_apply, tsum_eq_single rest]
  · simp
  · intro different apart
    simp [apart.symm]

theorem uniformAnswers_apply {last : Nat} {answers : List Nat}
    (fit : Fit last answers) :
    uniformAnswers last answers = (((last + 1)! : Nat) : ENNReal)⁻¹ := by
  induction last generalizing answers with
  | zero =>
      cases fit
      simp [uniformAnswers]
  | succ last induction =>
      obtain ⟨place, rest, rfl, below, fits⟩ := exists_of_fit fit
      have member : place ∈ Finset.range (last + 2) := Finset.mem_range.mpr below
      rw [uniformAnswers, PMF.bind_apply, tsum_eq_single place]
      · rw [PMF.uniformOfFinset_apply_of_mem _ member, map_cons_apply, if_pos rfl,
          induction fits, Finset.card_range, Nat.factorial_succ (last + 1),
          Nat.cast_mul, ENNReal.mul_inv]
        · left
          exact Nat.cast_ne_zero.mpr (Nat.succ_ne_zero (last + 1))
        · left
          exact ENNReal.natCast_ne_top (last + 2)
      · intro other apart
        rw [map_cons_apply, if_neg apart.symm, mul_zero]

/-! ## Shuffled lists -/

/-- What a list becomes when its shuffle is given these answers. -/
def arranged (items : List item) (answers : List Nat) : List item :=
  (shuffle items (Dictated.mk answers)).1

theorem existsUnique_answers {items target : List item} (nodup : items.Nodup)
    (perm : target.Perm items) :
    ∃! answers, Fit (items.length - 1) answers ∧
      arranged items answers = target := by
  cases items with
  | nil =>
      refine ⟨[], ⟨.nil, perm.eq_nil.symm⟩, ?_⟩
      rintro answers ⟨fit, -⟩
      cases fit
      rfl
  | cons first rest =>
      have room : (first :: rest).length - 1 < (first :: rest).toArray.size := by
        simp
      have length : target.length = (first :: rest).length := perm.length_eq
      obtain ⟨answers, fit, made⟩ := exists_answers (first :: rest).toArray
        (show target.toArray.toList.Perm _ from perm) nodup room (by
          intro place above
          rw [Array.getElem?_eq_none, Array.getElem?_eq_none]
          · simp at above ⊢
            omega
          · simp at above length ⊢
            omega)
      refine ⟨answers, ⟨fit, congrArg Array.toList made⟩, ?_⟩
      rintro others ⟨othersFit, othersMade⟩
      apply answers_eq_of_shuffleFrom_eq nodup room othersFit fit
      rw [made]
      exact Array.toList_inj.mp othersMade

theorem arranged_uniform_apply {items target : List item}
    (nodup : items.Nodup) (perm : target.Perm items) :
    (uniformAnswers (items.length - 1)).map (arranged items) target =
      (((items.length)! : Nat) : ENNReal)⁻¹ := by
  obtain ⟨answers, ⟨fit, made⟩, unique⟩ := existsUnique_answers nodup perm
  have count : (items.length - 1 + 1)! = (items.length)! := by
    cases items <;> rfl
  rw [PMF.map_apply, tsum_eq_single answers, if_pos made.symm,
    uniformAnswers_apply fit, count]
  intro others apart
  -- other answers either make another order or are not given at all
  split
  case isTrue same =>
    by_contra possible
    exact apart (unique others ⟨fit_of_mem_support possible, same.symm⟩)
  case isFalse => rfl

/-- Shuffling is fair.  From a source that keeps its numbers below their bounds
a shuffle asks for one number below each bound, from the length of the list down
to two, and for nothing else; it reaches for no place that the list does not
have, and it makes another order of the same items, which is settled by the
answers alone.  Every order of items that all differ is made by exactly one
choice of answers below these bounds.  So if the answers are independent and
each is equally likely among the numbers below its bound, then all orders are
equally likely. -/
theorem orders_equally_likely (items : List item) :
    ((∀ (bound : Nat) (state : source), 0 < bound →
        (RandomSource.below bound state).1 < bound) →
      ∀ state : source,
        let recorded := shuffle items (Recorded.mk state [])
        let answers := recorded.2.record.map Prod.snd
        (recorded.1, recorded.2.state) = shuffle items state ∧
          recorded.2.record.map Prod.fst =
            (List.range' 2 (items.length - 1)).reverse.map .below ∧
          answers.Forall₂ (· < ·) (List.range' 2 (items.length - 1)).reverse ∧
          arranged items answers = (shuffle items state).1 ∧
          shuffleInside? (items.length - 1) items.toArray state =
            some (shuffleFrom (items.length - 1) items.toArray state) ∧
          (shuffle items state).1.Perm items) ∧
      (items.Nodup → ∀ target : List item, target.Perm items →
        (∃! answers : List Nat,
            answers.Forall₂ (· < ·) (List.range' 2 (items.length - 1)).reverse ∧
              arranged items answers = target) ∧
          (uniformAnswers (items.length - 1)).map (arranged items) target =
            (((items.length)! : Nat) : ENNReal)⁻¹) := by
  constructor
  · intro keeps state recorded answers
    obtain ⟨same, asked, answered⟩ := shuffle_recorded items state
    have answersEq : answers = answersFrom (items.length - 1) state := answered
    have room : items.length - 1 = 0 ∨
        items.length - 1 < items.toArray.size := by
      rw [List.size_toArray]
      omega
    refine ⟨same, asked, ?_, ?_, shuffleInside?_eq keeps room state,
      shuffle_perm items state⟩
    · rw [answersEq]
      exact fit_answersFrom keeps (items.length - 1) state
    · rw [answersEq]
      exact congrArg Array.toList (shuffleFrom_dictated _ _ state)
  · intro nodup target perm
    exact ⟨existsUnique_answers nodup perm, arranged_uniform_apply nodup perm⟩

/-- Three items are shuffled with two numbers, the first below three and the
second below two, and the order with its ends changed is made by one choice of
them and so in one case of six. -/
theorem orders_equally_likely_three :
    let items := ["sea", "lamp", "rain"]
    let target := ["rain", "lamp", "sea"]
    let recorded := shuffle items (Recorded.mk (Scripted.ofFaces []) [])
    recorded.2.record.map Prod.fst = [.below 3, .below 2] ∧
      recorded.1.Perm items ∧
      (∃! answers : List Nat, answers.Forall₂ (· < ·) [3, 2] ∧
        arranged items answers = target) ∧
      (uniformAnswers 2).map (arranged items) target = (6 : ENNReal)⁻¹ := by
  intro items target recorded
  obtain ⟨asks, orders⟩ := @orders_equally_likely Scripted _ String items
  obtain ⟨same, asked, -, -, -, perm⟩ :=
    asks LawfulSource.below_lt (Scripted.ofFaces [])
  obtain ⟨once, likely⟩ := orders (by decide) target (by decide)
  rw [← same] at perm
  exact ⟨asked, perm, once, likely⟩

end Shuffling

end SoloJournal
