import Mathlib.Data.List.Dedup
import Mathlib.Data.List.Induction
import Mathlib.Logic.Function.Basic
import SoloJournal.Authoring.Summary

/-!
# Complete catalogs

A catalog is complete when no card is missing from it; a summary calls a game
complete when as many cards are written as there are cards.  Every card is
either written or missing, so the two numbers add up to fifty-two and the two
tests agree, however often an entry is repeated.
-/

namespace SoloJournal.Catalog

variable {catalog : Catalog} {entries : List (Card × Prompt)} {card : Card}
  {prompt : Prompt}

theorem mem_missing_iff : card ∈ catalog.missing ↔ catalog.prompt? card = none := by
  simp [missing]

theorem missing_sublist (catalog : Catalog) : catalog.missing.Sublist Card.all :=
  List.filter_sublist

theorem nodup_missing (catalog : Catalog) : catalog.missing.Nodup :=
  Card.nodup_all.sublist catalog.missing_sublist

/-- Every card is counted once, as written or as missing. -/
theorem size_add_length_missing (catalog : Catalog) :
    catalog.size + catalog.missing.length = 52 := by
  have counted := List.length_eq_countP_add_countP
    (fun card => (catalog.prompt? card).isSome) (l := Card.all)
  have others : catalog.missing.length =
      Card.all.countP fun card => ¬ (catalog.prompt? card).isSome := by
    simp only [missing, List.countP_eq_length_filter, decide_not,
      Bool.decide_eq_true, Option.not_isSome]
  rw [others, size, ← counted, Card.length_all]

theorem isComplete_summary_iff (rules : Rulebook) (catalog : Catalog) :
    (Summary.ofParts rules catalog).isComplete = true ↔
      catalog.isComplete = true := by
  have counted := catalog.size_add_length_missing
  calc (Summary.ofParts rules catalog).isComplete = true
      ↔ catalog.size = 52 := by
        simp [Summary.isComplete, Summary.ofParts, Card.length_all]
    _ ↔ catalog.missing.length = 0 := by omega
    _ ↔ catalog.isComplete = true := by simp [isComplete]

/-! ## Catalogs of entries -/

/-- No card has a prompt. -/
def unwritten : Catalog where
  prompt? _ := none

/-- Enters a prompt for a card, in place of the one that the card has. -/
def enter (catalog : Catalog) (entry : Card × Prompt) : Catalog where
  prompt? := Function.update catalog.prompt? entry.1 (some entry.2)

theorem ofEntries_concat (entries : List (Card × Prompt)) (entry : Card × Prompt) :
    ofEntries (entries ++ [entry]) = (ofEntries entries).enter entry := by
  ext1 card
  change (entries ++ [entry]).reverse.lookup card =
    Function.update (fun card => entries.reverse.lookup card) entry.1
      (some entry.2) card
  rw [List.reverse_concat, List.lookup_cons, Function.update_apply]
  by_cases same : card = entry.1
  · simp [same]
  · rw [if_neg same, beq_false_of_ne same]

/-- The entries are entered one after the other. -/
theorem ofEntries_eq_foldl (entries : List (Card × Prompt)) :
    ofEntries entries = entries.foldl enter unwritten := by
  induction entries using List.reverseRecOn with
  | nil => rfl
  | append_singleton entries entry induction =>
      rw [ofEntries_concat, induction, List.foldl_concat]

/-- The entry for a card after which there is no other for it. -/
def LastEntry (entries : List (Card × Prompt)) (card : Card) (prompt : Prompt) :
    Prop :=
  ∃ front back, entries = front ++ (card, prompt) :: back ∧
    card ∉ back.map Prod.fst

theorem prompt?_ofEntries_eq_some_iff :
    (ofEntries entries).prompt? card = some prompt ↔
      LastEntry entries card prompt := by
  change entries.reverse.lookup card = some prompt ↔ _
  rw [List.lookup_eq_some_iff]
  constructor
  · rintro ⟨later, earlier, same, none⟩
    refine ⟨earlier.reverse, later.reverse, ?_, ?_⟩
    · rw [← List.reverse_reverse entries, same]
      simp
    · intro member
      rw [List.map_reverse, List.mem_reverse] at member
      obtain ⟨entry, entered, rfl⟩ := List.mem_map.mp member
      simpa using none entry entered
  · rintro ⟨front, back, rfl, none⟩
    refine ⟨back.reverse, front.reverse, by simp, ?_⟩
    intro entry entered
    rw [bne_iff_ne]
    rintro rfl
    exact none (List.mem_map_of_mem (List.mem_reverse.mp entered))

theorem prompt?_ofEntries_eq_none_iff :
    (ofEntries entries).prompt? card = none ↔ card ∉ entries.map Prod.fst := by
  change entries.reverse.lookup card = none ↔ _
  simp only [List.lookup_eq_none_iff, List.mem_reverse, bne_iff_ne, List.mem_map,
    not_exists, not_and, ne_comm]

/-- A catalog has as many prompts as there are different cards among its
entries. -/
theorem size_ofEntries (entries : List (Card × Prompt)) :
    (ofEntries entries).size = (entries.map Prod.fst).dedup.length := by
  rw [size, List.countP_eq_length_filter]
  -- Both lists hold the cards that are entered, each of them once.
  apply List.Perm.length_eq
  apply (List.perm_ext_iff_of_nodup (Card.nodup_all.filter _)
    (List.nodup_dedup _)).mpr
  intro card
  rw [List.mem_filter, List.mem_dedup, Option.isSome_iff_ne_none, ne_eq,
    prompt?_ofEntries_eq_none_iff, not_not]
  exact and_iff_right (Card.mem_all card)

/-- Entering a list of entries one after the other leaves each card with the last
prompt that is entered for it.  The prompts are counted once for each card, and
with the missing cards, which are those never entered, in authoring order and
each once, they make fifty-two.  So a summary calls the game complete just when
no card is missing, that is, when every card is entered. -/
theorem completeness_agrees (entries : List (Card × Prompt)) (rules : Rulebook) :
    let catalog := ofEntries entries
    catalog = entries.foldl enter unwritten ∧
      (∀ card prompt,
        catalog.prompt? card = some prompt ↔ LastEntry entries card prompt) ∧
      catalog.size = (entries.map Prod.fst).dedup.length ∧
      catalog.size + catalog.missing.length = 52 ∧
      catalog.missing.Sublist Card.all ∧
      catalog.missing.Nodup ∧
      (∀ card, card ∈ catalog.missing ↔ card ∉ entries.map Prod.fst) ∧
      ((Summary.ofParts rules catalog).isComplete = true ↔
        catalog.isComplete = true) ∧
      (catalog.isComplete = true ↔ ∀ card, card ∈ entries.map Prod.fst) := by
  intro catalog
  have missed : ∀ card,
      card ∈ catalog.missing ↔ card ∉ entries.map Prod.fst := by
    intro card
    rw [mem_missing_iff, prompt?_ofEntries_eq_none_iff]
  refine ⟨ofEntries_eq_foldl entries, fun _ _ => prompt?_ofEntries_eq_some_iff,
    size_ofEntries entries, catalog.size_add_length_missing, catalog.missing_sublist,
    catalog.nodup_missing, missed, isComplete_summary_iff rules catalog, ?_⟩
  rw [isComplete, List.isEmpty_iff, List.eq_nil_iff_forall_not_mem]
  simp only [missed, not_not]

end SoloJournal.Catalog
