import Mathlib
import SoloJournal.Play.Event

/-!
# The pace of turns

`Pace` is what matters of a game for its turns, and `Pace.Beats` says how one
event changes it: a turn is rolled when none is under way, each applied card
takes one from what is left of it, and its end is told right after the card that
takes the last one.  A log that keeps this pace numbers the turns of a deal
without gaps and tells the end of each turn with its last card and nowhere else.
-/

namespace SoloJournal

namespace Event

def isDealt : Event → Bool
  | .dealt _ => true
  | _ => false

def isApplied : Event → Bool
  | .applied _ _ _ => true
  | _ => false

/-- The number of the turn that an event rolls. -/
def rolledNumber? : Event → Option UInt32
  | .turnRolled number _ => some number
  | _ => none

/-- Events that have nothing to do with turns. -/
def IsQuiet : Event → Prop
  | .dealt _ | .turnRolled _ _ | .turnEnded _ | .applied _ _ _ => False
  | _ => True

theorem rolledNumber?_of_quiet {event : Event} (quiet : event.IsQuiet) :
    event.rolledNumber? = none := by
  cases event with
  | turnRolled number roll => exact quiet.elim
  | _ => rfl

theorem isApplied_of_quiet {event : Event} (quiet : event.IsQuiet) :
    event.isApplied = false := by
  cases event with
  | applied card tokens blocks => exact quiet.elim
  | _ => rfl

/-- The events of one deal, after its cards are dealt. -/
def OneDeal (events : List Event) : Prop :=
  ∀ deck, .dealt deck ∉ events

theorem OneDeal.tail {event : Event} {events : List Event}
    (one : OneDeal (event :: events)) : OneDeal events :=
  fun deck => List.not_mem_of_not_mem_cons (one deck)

theorem OneDeal.front {front back : List Event} (one : OneDeal (front ++ back)) :
    OneDeal front :=
  fun deck member => one deck (List.mem_append_left back member)

theorem OneDeal.back {front back : List Event} (one : OneDeal (front ++ back)) :
    OneDeal back :=
  fun deck member => one deck (List.mem_append_right front member)

theorem oneDeal_nil : OneDeal [] :=
  fun _ => List.not_mem_nil

theorem not_oneDeal_dealt {deck : Nat} {events : List Event} :
    ¬ OneDeal (.dealt deck :: events) :=
  fun one => one deck List.mem_cons_self

end Event

structure Pace where
  /-- How many turns have begun since the deal. -/
  begun : Nat
  /-- How many cards are left of the turn begun last. -/
  left : Nat
  /-- Whether this turn is over but its end is still to be told. -/
  due : Bool

namespace Pace

def opening : Pace := { begun := 0, left := 0, due := false }

/-- What an event does to the pace.  As long as the end of a turn is due,
nothing else can be told. -/
inductive Beats : Pace → Event → Pace → Prop where
  | rolled {begun : Nat} {number : UInt32} {face : UInt8} :
      number.toNat = begun + 1 → 1 ≤ face → face ≤ 6 →
      Beats ⟨begun, 0, false⟩ (.turnRolled number face)
        ⟨begun + 1, face.toNat, false⟩
  | applied {begun left : Nat} {card : Card} {tokens : Int64}
      {blocks : UInt32} :
      Beats ⟨begun, left, false⟩ (.applied card tokens blocks)
        ⟨begun, left - 1, left == 1⟩
  | ended {begun left : Nat} {number : UInt32} :
      number.toNat = begun →
      Beats ⟨begun, left, true⟩ (.turnEnded number) ⟨begun, left, false⟩
  | dealt {begun left : Nat} {deck : Nat} :
      Beats ⟨begun, left, false⟩ (.dealt deck) opening
  | quiet {begun left : Nat} {event : Event} :
      event.IsQuiet →
      Beats ⟨begun, left, false⟩ event ⟨begun, left, false⟩

/-- The events lead from one pace to another. -/
inductive Paces : Pace → List Event → Pace → Prop where
  | nothing {pace : Pace} : Paces pace [] pace
  | beat {pace next after : Pace} {event : Event} {events : List Event} :
      Beats pace event next →
      Paces next events after →
      Paces pace (event :: events) after

variable {pace middle after : Pace}

namespace Paces

theorem append {front back : List Event} (first : Paces pace front middle)
    (second : Paces middle back after) : Paces pace (front ++ back) after := by
  induction first with
  | nothing => exact second
  | beat beats _ induction => exact .beat beats (induction second)

theorem cut {front back : List Event} (paces : Paces pace (front ++ back) after) :
    ∃ middle, Paces pace front middle ∧ Paces middle back after := by
  induction front generalizing pace with
  | nil => exact ⟨pace, .nothing, paces⟩
  | cons event front induction =>
      cases paces with
      | beat beats paces =>
          obtain ⟨middle, before, later⟩ := induction paces
          exact ⟨middle, .beat beats before, later⟩

theorem cut_at {front back : List Event} {event : Event}
    (paces : Paces pace (front ++ event :: back) after) :
    ∃ before next, Paces pace front before ∧ Beats before event next ∧
      Paces next back after := by
  obtain ⟨before, earlier, later⟩ := paces.cut
  cases later with
  | beat beats later => exact ⟨before, _, earlier, beats, later⟩

theorem of_quiet {begun left : Nat} {events : List Event}
    (quiet : ∀ event ∈ events, event.IsQuiet) :
    Paces ⟨begun, left, false⟩ events ⟨begun, left, false⟩ := by
  induction events with
  | nil => exact .nothing
  | cons event events induction =>
      rw [List.forall_mem_cons] at quiet
      exact .beat (.quiet quiet.1) (induction quiet.2)

/-! ## Within one deal -/

/-- Without a new deal turns are numbered on from those that have begun. -/
theorem numbers_eq {events : List Event} (paces : Paces pace events after)
    (one : Event.OneDeal events) :
    ∃ count, (events.filterMap Event.rolledNumber?).map UInt32.toNat =
      List.range' (pace.begun + 1) count := by
  induction paces with
  | nothing => exact ⟨0, rfl⟩
  | @beat pace next after event events beats paces induction =>
      obtain ⟨count, numbers⟩ := induction one.tail
      cases beats with
      | @rolled begun number face next lower upper =>
          refine ⟨count + 1, ?_⟩
          rw [List.range'_succ, ← numbers, ← next]
          rfl
      | applied => exact ⟨count, numbers⟩
      | ended => exact ⟨count, numbers⟩
      | dealt => exact absurd one Event.not_oneDeal_dealt
      | quiet quiet =>
          refine ⟨count, ?_⟩
          rw [List.filterMap_cons_none (Event.rolledNumber?_of_quiet quiet),
            numbers]

/-- How far applied cards take a turn: as long as they are fewer than were left
of it no other turn begins, and as long as none begins each takes one. -/
theorem left_eq {events : List Event} (paces : Paces pace events after)
    (one : Event.OneDeal events) :
    pace.begun ≤ after.begun ∧
      (after.begun = pace.begun →
        after.left = pace.left - events.countP Event.isApplied) ∧
      (events.countP Event.isApplied < pace.left → after.begun = pace.begun) := by
  induction paces with
  | nothing => simp
  | @beat pace next after event events beats paces induction =>
      obtain ⟨grows, same, fewer⟩ := induction one.tail
      cases beats with
      | rolled =>
          -- this turn is another one, so nothing can have been left
          simp only [Nat.not_lt_zero, false_implies, and_true] at grows ⊢
          exact ⟨by omega, by omega⟩
      | @applied begun left card tokens blocks =>
          rw [List.countP_cons_of_pos (by rfl)]
          simp only at grows same fewer ⊢
          exact ⟨grows, by omega, by omega⟩
      | ended => exact ⟨grows, same, fewer⟩
      | dealt => exact absurd one Event.not_oneDeal_dealt
      | quiet quiet =>
          rw [List.countP_cons_of_neg (by simp [Event.isApplied_of_quiet quiet])]
          exact ⟨grows, same, fewer⟩

/-- A turn that is under way later on was rolled in between, unless it was under
way before. -/
theorem begun_eq_or_rolled {events : List Event}
    (paces : Paces pace events after) (one : Event.OneDeal events) :
    after.begun = pace.begun ∨
      ∃ earlier number roll between,
        events = earlier ++ .turnRolled number roll :: between ∧
          number.toNat = after.begun := by
  induction paces with
  | nothing => exact .inl rfl
  | @beat pace next after event events beats paces induction =>
      rcases induction one.tail with same | ⟨earlier, number, roll, between, rfl, last⟩
      · cases beats with
        | rolled next => exact .inr ⟨[], _, _, events, rfl, next.trans same.symm⟩
        | dealt => exact absurd one Event.not_oneDeal_dealt
        | applied | ended | quiet => exact .inl same
      · exact .inr ⟨event :: earlier, number, roll, between, rfl, last⟩

/-- When no end is due any more, the end of a turn comes next just when it was
due at first. -/
theorem head?_eq_turnEnded_iff {events : List Event}
    (paces : Paces pace events after) (settled : after.due = false)
    (number : UInt32) :
    events.head? = some (.turnEnded number) ↔
      pace.due = true ∧ number.toNat = pace.begun := by
  cases paces with
  | nothing => simp [settled]
  | beat beats paces =>
      cases beats with
      | @ended begun left other same =>
          simp only [List.head?_cons, Option.some.injEq, Event.turnEnded.injEq,
            true_and]
          rw [← same, UInt32.toNat_inj, eq_comm]
      | quiet quiet =>
          constructor
          · intro first
            cases Option.some.inj first
            exact quiet.elim
          · rintro ⟨⟨⟩, -⟩
      | rolled | applied | dealt => simp

end Paces

/-- A turn is open from its roll until its end is told. -/
def IsOpen (pace : Pace) : Prop :=
  0 < pace.left ∨ pace.due = true

/-- Only its own end closes a turn within a deal. -/
theorem Paces.isOpen {events : List Event} (paces : Paces pace events after)
    (one : Event.OneDeal events) (isOpen : pace.IsOpen)
    (untold : ∀ number : UInt32, number.toNat = pace.begun →
      .turnEnded number ∉ events) : after.IsOpen := by
  induction paces with
  | nothing => exact isOpen
  | @beat pace next after event events beats paces induction =>
      have later : ∀ number : UInt32, number.toNat = pace.begun →
          .turnEnded number ∉ events := fun number same =>
        List.not_mem_of_not_mem_cons (untold number same)
      cases beats with
      | rolled => simp [IsOpen] at isOpen
      | @applied begun left card tokens blocks =>
          apply induction one.tail _ later
          have some : 0 < left := by simpa [IsOpen] using isOpen
          by_cases last : left = 1
          · exact .inr (by simp [last])
          · exact .inl (show 0 < left - 1 by omega)
      | @ended begun left number same =>
          exact absurd List.mem_cons_self (untold number same)
      | dealt => exact absurd one Event.not_oneDeal_dealt
      | quiet quiet => exact induction one.tail isOpen later

/-! ## The events of a deal -/

/-- What holds of the events of one deal: its turns are numbered from one on,
each die shows a face, a turn is over before the next one is rolled, and its end
is told right after as many applied cards as its die shows, and never else. -/
structure Steady (deal : List Event) : Prop where
  numbers_eq : ∃ count,
    (deal.filterMap Event.rolledNumber?).map UInt32.toNat =
      List.range' 1 count
  face : ∀ earlier number roll later,
    deal = earlier ++ .turnRolled number roll :: later → 1 ≤ roll ∧ roll ≤ 6
  turnEnded_mem : ∀ earlier number roll between other next later,
    deal = earlier ++ .turnRolled number roll ::
        (between ++ .turnRolled other next :: later) →
      .turnEnded number ∈ between
  head?_eq_turnEnded_iff : ∀ earlier card tokens blocks later number,
    deal = earlier ++ .applied card tokens blocks :: later →
      (later.head? = some (.turnEnded number) ↔
        ∃ before roll between,
          earlier = before ++ .turnRolled number roll :: between ∧
            between.countP Event.isApplied + 1 = roll.toNat)
  getLast?_isApplied : ∀ earlier number later,
    deal = earlier ++ .turnEnded number :: later →
      ∃ card tokens blocks, earlier.getLast? = some (.applied card tokens blocks)

/-- At a roll that keeps the pace the turn before is over. -/
theorem Paces.at_roll {earlier later : List Event} {number : UInt32}
    {roll : UInt8}
    (paces : Paces pace (earlier ++ .turnRolled number roll :: later) after) :
    1 ≤ roll ∧ roll ≤ 6 ∧
      (∃ begun, Paces pace earlier ⟨begun, 0, false⟩) ∧
      Paces ⟨number.toNat, roll.toNat, false⟩ later after := by
  obtain ⟨before, next, front, beats, back⟩ := paces.cut_at
  cases beats with
  | rolled same lower upper =>
      rw [← same] at back
      exact ⟨lower, upper, ⟨_, front⟩, back⟩
  | quiet quiet => exact quiet.elim

/-- An applied card comes when no end is due, and makes one due when it is the
last of its turn. -/
theorem Paces.at_applied {earlier later : List Event} {card : Card}
    {tokens : Int64} {blocks : UInt32}
    (paces : Paces pace (earlier ++ .applied card tokens blocks :: later) after) :
    ∃ begun left, Paces pace earlier ⟨begun, left, false⟩ ∧
      Paces ⟨begun, left - 1, left == 1⟩ later after := by
  obtain ⟨before, next, front, beats, back⟩ := paces.cut_at
  cases beats with
  | applied => exact ⟨_, _, front, back⟩
  | quiet quiet => exact quiet.elim

theorem Paces.getLast?_of_due {events : List Event}
    (paces : Paces pace events after) (settled : pace.due = false)
    (due : after.due = true) :
    ∃ card tokens blocks, events.getLast? = some (.applied card tokens blocks) := by
  rcases List.eq_nil_or_concat events with rfl | ⟨front, event, rfl⟩
  · cases paces
    rw [settled] at due
    cases due
  · rw [List.concat_eq_append] at paces ⊢
    obtain ⟨before, next, -, beats, rest⟩ := paces.cut_at
    cases rest
    cases beats with
    | @applied begun left card tokens blocks =>
        exact ⟨card, tokens, blocks, List.getLast?_concat⟩
    | rolled | ended | dealt | quiet => cases due

theorem Paces.steady {deal : List Event} (paces : Paces opening deal after)
    (settled : after.due = false) (one : Event.OneDeal deal) :
    Steady deal where
  numbers_eq := paces.numbers_eq one
  face := by
    rintro earlier number roll later rfl
    obtain ⟨lower, upper, -⟩ := paces.at_roll
    exact ⟨lower, upper⟩
  turnEnded_mem := by
    rintro earlier number roll between other next later rfl
    obtain ⟨lower, -, -, since⟩ := paces.at_roll
    obtain ⟨-, -, ⟨begun, front⟩, -⟩ := since.at_roll
    by_contra untold
    have within : Event.OneDeal between := one.back.tail.front
    have some : 0 < roll.toNat := UInt8.le_iff_toNat_le.mp lower
    have stillOpen := front.isOpen within (.inl some) (by
      intro ended same
      rwa [UInt32.toNat_inj.mp same])
    simp [IsOpen] at stillOpen
  head?_eq_turnEnded_iff := by
    rintro earlier card tokens blocks later number rfl
    obtain ⟨begun, left, front, back⟩ := paces.at_applied
    rw [back.head?_eq_turnEnded_iff settled number]
    have within : Event.OneDeal earlier := one.front
    constructor
    · rintro ⟨last, same⟩
      obtain rfl : left = 1 := beq_iff_eq.mp last
      rcases front.begun_eq_or_rolled within with
        none | ⟨before, rolled, roll, between, rfl, begins⟩
      · -- before the first roll no card can be the last one of a turn
        have nothing := (front.left_eq within).2.1 none
        simp [opening] at nothing
      · obtain rfl : rolled = number :=
          UInt32.toNat_inj.mp (begins.trans same.symm)
        obtain ⟨-, -, -, since⟩ := front.at_roll
        have taken := (since.left_eq within.back.tail).2.1 same.symm
        exact ⟨before, roll, between, rfl, by simp only at taken; omega⟩
    · rintro ⟨before, roll, between, rfl, count⟩
      obtain ⟨-, -, -, since⟩ := front.at_roll
      obtain ⟨-, taken, fewer⟩ := since.left_eq within.back.tail
      have same := fewer (show _ < roll.toNat by omega)
      have last := taken same
      simp only at same last
      exact ⟨beq_iff_eq.mpr (by omega), same.symm⟩
  getLast?_isApplied := by
    rintro earlier number later rfl
    obtain ⟨before, next, front, beats, -⟩ := paces.cut_at
    cases beats with
    | ended => exact front.getLast?_of_due rfl rfl
    | quiet quiet => exact quiet.elim

/-! ## The deals of a log -/

/-- A log that keeps the pace is cut by its deals into the end of the deal that
it begins in and further deals, each from its opening on. -/
theorem Paces.splitOnP {log : List Event} (paces : Paces pace log after)
    (settled : after.due = false) :
    ∃ first rest, log.splitOnP Event.isDealt = first :: rest ∧
      (∃ last, Paces pace first last ∧ last.due = false) ∧
      Event.OneDeal first ∧ ∀ deal ∈ rest, Steady deal := by
  induction paces with
  | @nothing pace =>
      exact ⟨[], [], rfl, ⟨pace, .nothing, settled⟩, Event.oneDeal_nil,
        List.forall_mem_nil _⟩
  | @beat pace next after event events beats paces induction =>
      obtain ⟨first, rest, cut, ⟨last, begins, ends⟩, one, steady⟩ :=
        induction settled
      rw [List.splitOnP_cons_eq_if_modifyHead, cut]
      cases dealing : event.isDealt with
      | true =>
          cases beats with
          | dealt =>
              -- what was read so far is a whole deal, and another one ends here
              exact ⟨[], first :: rest, rfl, ⟨_, .nothing, rfl⟩,
                Event.oneDeal_nil,
                List.forall_mem_cons.mpr ⟨begins.steady ends one, steady⟩⟩
          | rolled | applied | ended => cases dealing
          | quiet quiet =>
              cases event with
              | dealt deck => exact quiet.elim
              | _ => cases dealing
      | false =>
          refine ⟨event :: first, rest, rfl, ⟨last, .beat beats begins, ends⟩, ?_,
            steady⟩
          intro deck member
          rcases List.mem_cons.mp member with rfl | member
          · cases dealing
          · exact one deck member

theorem Paces.steady_of_mem_splitOnP {log deal : List Event}
    (paces : Paces opening log after) (settled : after.due = false)
    (member : deal ∈ log.splitOnP Event.isDealt) : Steady deal := by
  obtain ⟨first, rest, cut, ⟨last, begins, ends⟩, one, steady⟩ :=
    paces.splitOnP settled
  rw [cut] at member
  rcases List.mem_cons.mp member with rfl | member
  · exact begins.steady ends one
  · exact steady deal member

end Pace

end SoloJournal
