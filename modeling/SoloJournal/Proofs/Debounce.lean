import Mathlib.Data.List.Chain
import Mathlib.Data.List.Induction
import SoloJournal.Proofs.WriteThrough

/-!
# The debounce of the journal

`Session.Unsaved` finds the last edit of a run, as long as nothing has been
written after it.  What a session remembers for its autosave is just the time of
that edit, so a flush saves exactly when that edit is at least an interval ago.
A burst of edits is therefore saved at most once, and not before it has been
quiet for the interval.
-/

namespace SoloJournal

theorem Autosave.isDue_iff {autosave : Autosave} {now : Nat} :
    autosave.isDue now = true ↔
      ∃ edited, autosave.edited = some edited ∧
        autosave.interval ≤ now - edited := by
  cases remembered : autosave.edited <;> simp [isDue, remembered]

namespace Deed

/-- The time of a deed that is told one. -/
def time? : Deed → Option Nat
  | edit _ now | flush now => some now
  | _ => none

/-- The time of an edit of the journal. -/
def editTime? : Deed → Option Nat
  | edit _ now => some now
  | _ => none

/-- The times of the deeds never go back. -/
def InOrder (deeds : List Deed) : Prop :=
  (deeds.filterMap time?).Pairwise (· ≤ ·)

/-- No deed is an edit. -/
def Unedited (deeds : List Deed) : Prop :=
  ∀ deed, deed ∈ deeds → deed.editTime? = none

theorem time?_of_editTime? {deed : Deed} {edited : Nat}
    (edits : deed.editTime? = some edited) : deed.time? = some edited := by
  cases deed <;> cases edits
  rfl

/-- After an edit at a time, every further one follows within less than an
interval, with the times in order.  Other deeds may come in between, and any
that are no edits may come afterwards. -/
structure Burst (interval edited : Nat) (later : List Deed) : Prop where
  inOrder : (edited :: later.filterMap time?).Pairwise (· ≤ ·)
  gaps : (edited :: later.filterMap editTime?).IsChain
    (fun earlier later => later < earlier + interval)

namespace Burst

variable {interval edited : Nat} {deed : Deed} {later : List Deed}

/-- The next edit begins a burst of its own. -/
theorem next {text : String} {now : Nat}
    (burst : Burst interval edited (.edit text now :: later)) :
    edited ≤ now ∧ Burst interval now later where
  left := List.rel_of_pairwise_cons burst.inOrder List.mem_cons_self
  right := ⟨burst.inOrder.tail, burst.gaps.tail⟩

theorem pass (burst : Burst interval edited (deed :: later))
    (noEdit : deed.editTime? = none) : Burst interval edited later where
  inOrder := by
    refine burst.inOrder.sublist (.cons_cons edited ?_)
    exact (List.sublist_cons_self deed later).filterMap time?
  gaps := by
    have gaps := burst.gaps
    rwa [List.filterMap_cons_none noEdit] at gaps

/-- Once it is quiet for the interval the burst is over. -/
theorem unedited {now : Nat} (burst : Burst interval edited (.flush now :: later))
    (quiet : edited + interval ≤ now) : Unedited later := by
  apply List.filterMap_eq_nil_iff.mp
  cases edits : later.filterMap editTime? with
  | nil => rfl
  | cons next others =>
      have gaps := (burst.pass rfl).gaps
      rw [edits] at gaps
      have soon : next < edited + interval := gaps.rel
      have after : now ≤ next := by
        obtain ⟨deed, member, edit⟩ := List.mem_filterMap.mp
          (show next ∈ later.filterMap editTime? from edits ▸ List.mem_cons_self)
        refine List.rel_of_pairwise_cons burst.inOrder.tail ?_
        exact List.mem_filterMap.mpr ⟨deed, member, time?_of_editTime? edit⟩
      omega

end Burst

end Deed

namespace Session

open LawfulSlot (Holds)

variable {σ κ : Type} [SaveSlot κ] [RandomSource σ]

/-! ## What is written along a run -/

/-- The last edit among the deeds, as long as nothing has been written after
it. -/
def Unsaved (session : Session σ κ) (deeds : List Deed) (text : String)
    (edited : Nat) : Prop :=
  ∃ earlier later, deeds = earlier ++ .edit text edited :: later ∧
    Deed.Unedited later ∧
    (session.afterDeeds (earlier ++ [.edit text edited])).grantedAlong later = []

theorem not_unsaved_nil {session : Session σ κ} {text : String} {edited : Nat} :
    ¬ Unsaved session [] text edited := by
  rintro ⟨earlier, later, same, -⟩
  simp at same

/-- An edit is unsaved at once; any other deed leaves an edit unsaved that it
does not write. -/
theorem unsaved_concat_iff {session : Session σ κ} {deeds : List Deed}
    {deed : Deed} {text : String} {edited : Nat} :
    Unsaved session (deeds ++ [deed]) text edited ↔
      deed = .edit text edited ∨
        deed.editTime? = none ∧ (session.afterDeeds deeds).granted deed = [] ∧
          Unsaved session deeds text edited := by
  constructor
  · rintro ⟨earlier, later, same, unedited, unwritten⟩
    rcases List.eq_nil_or_concat' later with rfl | ⟨front, last, rfl⟩
    · left
      exact List.singleton_inj.mp (List.append_inj' same rfl).2
    · right
      rw [← List.cons_append, ← List.append_assoc] at same
      obtain ⟨rfl, lastEq⟩ := List.append_inj' same rfl
      obtain rfl : deed = last := List.singleton_inj.mp lastEq
      rw [grantedAlong_append, List.append_eq_nil_iff, ← afterDeeds_append,
        List.append_assoc, List.singleton_append] at unwritten
      refine ⟨unedited deed (by simp), ?_, earlier, front, rfl, ?_, unwritten.1⟩
      · simpa [grantedAlong] using unwritten.2
      · exact fun other member => unedited other (by simp [member])
  · rintro (rfl | ⟨noEdit, unwritten, earlier, later, rfl, unedited, before⟩)
    · exact ⟨deeds, [], rfl, by simp [Deed.Unedited], rfl⟩
    · refine ⟨earlier, later ++ [deed], by simp, ?_, ?_⟩
      · intro other member
        rcases List.mem_append.mp member with inside | last
        · exact unedited other inside
        · rw [List.mem_singleton.mp last]
          exact noEdit
      · rw [grantedAlong_append, before, ← afterDeeds_append, List.append_assoc,
          List.singleton_append]
        simpa [grantedAlong] using unwritten

theorem Unsaved.time_le {session : Session σ κ} {deeds : List Deed}
    {text : String} {edited now : Nat}
    (unsaved : Unsaved session deeds text edited)
    (inOrder : Deed.InOrder (deeds ++ [.flush now])) : edited ≤ now := by
  obtain ⟨earlier, later, rfl, -, -⟩ := unsaved
  rw [Deed.InOrder, List.filterMap_append] at inOrder
  refine (List.pairwise_append.mp inOrder).2.2 edited ?_ now (by simp [Deed.time?])
  simp [Deed.time?]

/-! ## What a session remembers of its edits -/

variable [LawfulSlot κ] [UnfailingSlot κ]

/-- What a deed that is no edit does to the autosave and the journal: it writes
nothing and leaves both alone, or it writes, and then no edit is unsaved. -/
theorem autosave_perform (session : Session σ κ) {deed : Deed}
    (noEdit : deed.editTime? = none) :
    (session.granted deed = [] ∧
        (session.perform deed).after.autosave = session.autosave ∧
        (session.perform deed).after.game.journal = session.game.journal) ∨
      session.granted deed ≠ [] ∧
        (session.perform deed).after.autosave =
          session.autosave.markSaved := by
  have goes := goes_perform session deed
  generalize session.granted deed = made at goes
  generalize session.perform deed = outcome at goes
  cases goes with
  | rejected => exact .inl ⟨rfl, rfl, rfl⟩
  | waited => exact .inl ⟨rfl, rfl, rfl⟩
  | edited => cases noEdit
  | played => exact .inr ⟨List.cons_ne_nil _ _, rfl⟩
  | dealt => exact .inr ⟨List.cons_ne_nil _ _, rfl⟩
  | flushed => exact .inr ⟨List.cons_ne_nil _ _, rfl⟩

/-- No deed but an edit gives a session an edit to remember. -/
theorem edited_perform (session : Session σ κ) {deed : Deed}
    (noEdit : deed.editTime? = none) :
    (session.perform deed).after.autosave.edited = none ∨
      (session.perform deed).after.autosave.edited =
        session.autosave.edited := by
  rcases autosave_perform session noEdit with ⟨-, same, -⟩ | ⟨-, same⟩
  · exact .inr (congrArg Autosave.edited same)
  · exact .inl (congrArg Autosave.edited same)

theorem interval_perform (session : Session σ κ) (deed : Deed) :
    (session.perform deed).after.autosave.interval =
      session.autosave.interval := by
  cases edits : deed.editTime? with
  | some edited =>
      cases deed <;> cases edits
      rfl
  | none =>
      rcases autosave_perform session edits with ⟨-, same, -⟩ | ⟨-, same⟩
      · rw [same]
      · rw [same]
        rfl

theorem interval_afterDeeds (session : Session σ κ) (deeds : List Deed) :
    (session.afterDeeds deeds).autosave.interval = session.autosave.interval := by
  induction deeds generalizing session with
  | nil => rfl
  | cons deed deeds induction =>
      exact (induction _).trans (interval_perform session deed)

/-- From a session without unsaved edits on, what is remembered is the time of
the unsaved edit. -/
theorem edited_afterDeeds_iff {session : Session σ κ}
    (clean : session.autosave.edited = none) (deeds : List Deed)
    (edited : Nat) :
    (session.afterDeeds deeds).autosave.edited = some edited ↔
      ∃ text, Unsaved session deeds text edited := by
  induction deeds using List.reverseRecOn with
  | nil =>
      show session.autosave.edited = some edited ↔ _
      simp [clean, not_unsaved_nil]
  | append_singleton deeds deed induction =>
      rw [afterDeeds_append]
      show ((session.afterDeeds deeds).perform deed).after.autosave.edited =
        some edited ↔ _
      simp only [unsaved_concat_iff]
      cases edits : deed.editTime? with
      | some now =>
          cases deed <;> cases edits
          show some now = some edited ↔ _
          constructor
          · rintro ⟨⟩
            exact ⟨_, .inl rfl⟩
          · rintro ⟨_, same | ⟨⟨⟩, -⟩⟩
            cases same
            rfl
      | none =>
          have notEdit : ∀ text, deed ≠ .edit text edited := by
            rintro text rfl
            cases edits
          rcases autosave_perform (session.afterDeeds deeds) edits with
            ⟨unwritten, same, -⟩ | ⟨written, same⟩
          · rw [same, induction]
            simp [notEdit, unwritten]
          · rw [same]
            simp [notEdit, written, Autosave.markSaved]

/-- The journal has the text of the unsaved edit. -/
theorem Unsaved.journal_eq {session : Session σ κ} {deeds : List Deed}
    {text : String} {edited : Nat} (unsaved : Unsaved session deeds text edited) :
    (session.afterDeeds deeds).game.journal = text := by
  induction deeds using List.reverseRecOn with
  | nil => exact absurd unsaved not_unsaved_nil
  | append_singleton deeds deed induction =>
      rw [afterDeeds_append]
      rcases unsaved_concat_iff.mp unsaved with rfl | ⟨noEdit, unwritten, before⟩
      · rfl
      · rcases autosave_perform (session.afterDeeds deeds) noEdit with
          ⟨-, -, same⟩ | ⟨written, -⟩
        · exact same.trans (induction before)
        · exact absurd unwritten written

/-- From a session without unsaved edits on, a flush is due just when an edit is
unsaved and at least an interval ago. -/
theorem isDue_afterDeeds_iff {session : Session σ κ}
    (clean : session.autosave.edited = none) {deeds : List Deed} {now : Nat}
    (inOrder : Deed.InOrder (deeds ++ [.flush now])) :
    (session.afterDeeds deeds).autosave.isDue now = true ↔
      ∃ text edited, Unsaved session deeds text edited ∧
        edited + session.autosave.interval ≤ now := by
  rw [Autosave.isDue_iff, interval_afterDeeds]
  constructor
  · rintro ⟨edited, remembered, long⟩
    obtain ⟨text, unsaved⟩ :=
      (edited_afterDeeds_iff clean deeds edited).mp remembered
    have before := unsaved.time_le inOrder
    exact ⟨text, edited, unsaved, by omega⟩
  · rintro ⟨text, edited, unsaved, long⟩
    have remembered :=
      (edited_afterDeeds_iff clean deeds edited).mpr ⟨text, unsaved⟩
    exact ⟨edited, remembered, by omega⟩

/-! ## Flushes -/

omit [RandomSource σ] in
/-- A flush that is due saves the game with its journal, and one that is not due
does nothing. -/
theorem flush_cases (session : Session σ κ) (now : Nat) :
    (session.autosave.isDue now = true ∧
        (session.flush now).answer = .ok true ∧
        (session.flush now).events =
          [.journalSaved session.game.journal.length] ∧
        Holds (session.flush now).after.slot (some session.game.saved)) ∨
      session.autosave.isDue now = false ∧
        session.flush now = .accept false [] session := by
  unfold flush
  split
  case isTrue due =>
    left
    have held := LawfulSlot.held_save session.game.saved session.slot
    unfold saveJournal persist
    cases saves : SaveSlot.save session.game.saved session.slot with
    | mk answer slot =>
        cases answer with
        | error error => exact absurd saves UnfailingSlot.save_ne_error
        | ok done =>
            rw [saves] at held
            exact ⟨due, rfl, rfl, LawfulSlot.holds_saved held⟩
  case isFalse waits => exact .inr ⟨by simpa using waits, rfl⟩

/-- The time of a deed that is a flush and saves the journal. -/
def savedAt? (session : Session σ κ) : Deed → Option Nat
  | .flush now =>
    match (session.flush now).answer with
    | .ok true => some now
    | _ => none
  | _ => none

/-- The times of the flushes in the course of a list of deeds that save the
journal. -/
def savingTimes (session : Session σ κ) : List Deed → List Nat
  | [] => []
  | deed :: deeds =>
      (session.savedAt? deed).toList
        ++ (session.perform deed).after.savingTimes deeds

omit [RandomSource σ] in
theorem savedAt?_eq_some {session : Session σ κ} {deed : Deed} {now : Nat}
    (saves : session.savedAt? deed = some now) :
    deed = .flush now ∧ session.autosave.isDue now = true := by
  cases deed with
  | flush time =>
      rcases flush_cases session time with ⟨due, answer, -⟩ | ⟨-, same⟩
      · rw [savedAt?, answer] at saves
        cases saves
        exact ⟨rfl, due⟩
      · rw [savedAt?, same] at saves
        cases saves
  | _ => cases saves

theorem perform_flush_of_due {session : Session σ κ} {now : Nat}
    (due : session.autosave.isDue now = true) :
    (session.perform (.flush now)).after.autosave =
      session.autosave.markSaved := by
  have written : session.granted (.flush now) ≠ [] := by
    rw [granted, UnfailingSlot.carryOut_fst, requests, if_pos due]
    exact List.cons_ne_nil _ _
  have noEdit : (Deed.flush now).editTime? = none := rfl
  rcases autosave_perform session noEdit with ⟨unwritten, -⟩ | ⟨-, same⟩
  · exact absurd unwritten written
  · exact same

/-- Without an unsaved edit, no flush saves before the next edit. -/
theorem savingTimes_of_clean {session : Session σ κ} {deeds : List Deed}
    (clean : session.autosave.edited = none) (unedited : Deed.Unedited deeds) :
    session.savingTimes deeds = [] := by
  induction deeds generalizing session with
  | nil => rfl
  | cons deed deeds induction =>
      have noSave : session.savedAt? deed = none := by
        rw [Option.eq_none_iff_forall_ne_some]
        intro now saves
        have due := (savedAt?_eq_some saves).2
        rw [Autosave.isDue, clean] at due
        cases due
      have stillClean : (session.perform deed).after.autosave.edited = none := by
        rcases edited_perform session (unedited deed List.mem_cons_self) with
          forgotten | same
        · exact forgotten
        · exact same.trans clean
      rw [savingTimes, noSave]
      exact induction stillClean fun other member =>
        unedited other (List.mem_cons_of_mem deed member)

/-- A burst after an edit that is saved, or not yet, is saved once at most, and
not until all of its edits are an interval ago. -/
theorem savingTimes_of_burst {session : Session σ κ} {edited : Nat}
    {later : List Deed}
    (settled : session.autosave.edited = none ∨
      session.autosave.edited = some edited)
    (burst : Deed.Burst session.autosave.interval edited later) :
    (session.savingTimes later).length ≤ 1 ∧
      ∀ now, now ∈ session.savingTimes later →
        ∀ time, time ∈ edited :: later.filterMap Deed.editTime? →
          time + session.autosave.interval ≤ now := by
  induction later generalizing session edited with
  | nil => simp [savingTimes]
  | cons deed later induction =>
      have interval := interval_perform session deed
      cases edits : deed.editTime? with
      | some now =>
          cases deed <;> cases edits
          obtain ⟨before, next⟩ := burst.next
          rw [← interval] at next
          obtain ⟨once, quiet⟩ := induction (.inr rfl) next
          refine ⟨once, fun saved member time edit => ?_⟩
          rw [interval] at quiet
          rcases List.mem_cons.mp edit with rfl | further
          · have last := quiet saved member now List.mem_cons_self
            omega
          · exact quiet saved member time further
      | none =>
          rw [List.filterMap_cons_none edits, savingTimes]
          cases saves : session.savedAt? deed with
          | some now =>
              -- the flush ends the burst, and the rest of it has nothing to save
              obtain ⟨rfl, due⟩ := savedAt?_eq_some saves
              have before : edited ≤ now :=
                List.rel_of_pairwise_cons burst.inOrder List.mem_cons_self
              have quiet : edited + session.autosave.interval ≤ now := by
                obtain ⟨time, remembered, long⟩ := Autosave.isDue_iff.mp due
                rw [remembered] at settled
                obtain rfl : time = edited := by simpa using settled
                omega
              have unedited := burst.unedited quiet
              have clean : (session.perform (.flush now)).after.autosave.edited =
                  none := by
                rw [perform_flush_of_due due]
                rfl
              rw [savingTimes_of_clean clean unedited,
                List.filterMap_eq_nil_iff.mpr unedited]
              simpa using quiet
          | none =>
              have settledAfter :
                  (session.perform deed).after.autosave.edited = none ∨
                    (session.perform deed).after.autosave.edited = some edited := by
                rcases edited_perform session edits with forgotten | same
                · exact .inl forgotten
                · rwa [same]
              have rest := burst.pass edits
              rw [← interval] at rest
              have later := induction settledAfter rest
              rwa [interval] at later

/-- The debounce of the journal.  A flush saves just when an edit is unsaved and
the last one is at least an interval ago; then the slot holds the game with the
text of that edit, and its length is told, and otherwise nothing happens.  So of
the flushes in and after a burst of edits one saves at most, and none before all
edits are an interval ago; and once any deed has written, none saves before the
next edit. -/
theorem journal_debounced (interval : Nat) (session : Session σ κ) :
    let begun := { session with autosave := Autosave.every interval }
    (∀ (deeds : List Deed) (now : Nat), Deed.InOrder (deeds ++ [.flush now]) →
      let final := begun.afterDeeds deeds
      let outcome := final.flush now
      (∃ saved, outcome.answer = .ok saved ∧
          (saved = true ↔
            ∃ text edited, begun.Unsaved deeds text edited ∧
              edited + interval ≤ now)) ∧
        (∀ text edited, begun.Unsaved deeds text edited →
          outcome.answer = .ok true →
            final.game.journal = text ∧
              Holds outcome.after.slot (some final.game.saved) ∧
              outcome.events = [.journalSaved text.length]) ∧
        (outcome.answer = .ok false → outcome = .accept false [] final)) ∧
      (∀ (earlier : List Deed) (text : String) (edited : Nat)
          (later : List Deed), Deed.Burst interval edited later →
        let saves := (begun.afterDeeds earlier).savingTimes
          (.edit text edited :: later)
        saves.length ≤ 1 ∧
          ∀ now, now ∈ saves →
            ∀ time, time ∈ edited :: later.filterMap Deed.editTime? →
              time + interval ≤ now) ∧
      ∀ (earlier : List Deed) (deed : Deed) (later : List Deed),
        (begun.afterDeeds earlier).granted deed ≠ [] → Deed.Unedited later →
          ((begun.afterDeeds earlier).perform deed).after.savingTimes later =
            [] := by
  intro begun
  have every : ∀ deeds,
      (begun.afterDeeds deeds).autosave.interval = interval :=
    interval_afterDeeds begun
  refine ⟨?_, ?_, ?_⟩
  · intro deeds now inOrder final outcome
    have clean : begun.autosave.edited = none := rfl
    have dueIff : final.autosave.isDue now = true ↔
        ∃ text edited, begun.Unsaved deeds text edited ∧
          edited + interval ≤ now := isDue_afterDeeds_iff clean inOrder
    rcases flush_cases final now with ⟨due, answer, events, holds⟩ | ⟨waits, same⟩
    · refine ⟨⟨true, answer, by simpa [due] using dueIff⟩, ?_, ?_⟩
      · intro text edited unsaved _
        have journal : final.game.journal = text := unsaved.journal_eq
        exact ⟨journal, holds, journal ▸ events⟩
      · intro refused
        cases answer.symm.trans refused
    · refine ⟨⟨false, congrArg Outcome.answer same, ?_⟩, ?_, fun _ => same⟩
      · simpa [waits] using dueIff
      · intro text edited unsaved saves
        cases (congrArg Outcome.answer same).symm.trans saves
  · intro earlier text edited later burst
    let after := (begun.afterDeeds earlier).edit text edited
    have same : after.autosave.interval = interval := every earlier
    have settled : after.autosave.edited = none ∨
        after.autosave.edited = some edited := .inr rfl
    have saved := savingTimes_of_burst settled (same.symm ▸ burst)
    rwa [same] at saved
  · intro earlier deed later written unedited
    have noEdit : deed.editTime? = none := by
      cases deed with
      | edit text now => exact absurd rfl written
      | _ => rfl
    apply savingTimes_of_clean _ unedited
    rcases autosave_perform (begun.afterDeeds earlier) noEdit with
      ⟨unwritten, -⟩ | ⟨-, same⟩
    · exact absurd unwritten written
    · exact congrArg Autosave.edited same

open Terminal.Table (begun) in
/-- A letter is noted in two goes.  The flush in between comes too early, the
next one saves the whole note, and a third one has nothing to save; nor has a
flush after a card is drawn. -/
theorem journal_debounced_letter :
    let session := { begun MemorySlot.empty Loaded.threes with
      autosave := Autosave.every 250 }
    let noted := [.edit "I found" 0, .edit "I found a letter." 100, .flush 200]
    let final := session.afterDeeds noted
    Deed.InOrder (noted ++ [.flush 400]) ∧
      session.Unsaved noted "I found a letter." 100 ∧
      (final.flush 400).answer = .ok true ∧
      final.game.journal = "I found a letter." ∧
      Holds (final.flush 400).after.slot (some final.game.saved) ∧
      (final.flush 400).events = [.journalSaved 17] ∧
      (session.savingTimes (noted ++ [.flush 400, .flush 900])).length ≤ 1 ∧
      (final.perform .draw).after.savingTimes [.flush 400] = [] := by
  intro session noted final
  have inOrder : Deed.InOrder (noted ++ [.flush 400]) := by
    simp [Deed.InOrder, Deed.time?, noted]
  have unsaved : session.Unsaved noted "I found a letter." 100 :=
    ⟨[.edit "I found" 0], [.flush 200], rfl, by simp [Deed.Unedited, Deed.editTime?],
      rfl⟩
  obtain ⟨flushes, bursts, writes⟩ :=
    journal_debounced 250 (begun MemorySlot.empty Loaded.threes)
  obtain ⟨⟨saved, answer, dueIff⟩, holds, -⟩ := flushes noted 400 inOrder
  obtain rfl : saved = true := dueIff.mpr ⟨_, _, unsaved, by decide⟩
  obtain ⟨journal, held, told⟩ := holds _ _ unsaved answer
  have burst : Deed.Burst 250 0
      [.edit "I found a letter." 100, .flush 200, .flush 400, .flush 900] :=
    { inOrder := by decide, gaps := by decide }
  have drawn : final.granted .draw ≠ [] := by decide +kernel
  exact ⟨inOrder, unsaved, answer, journal, held, told,
    (bursts [] "I found" 0 _ burst).1,
    writes noted .draw [.flush 400] drawn
      (by simp [Deed.Unedited, Deed.editTime?])⟩

end Session

end SoloJournal
