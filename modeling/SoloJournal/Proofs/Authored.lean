import SoloJournal.Proofs.Loading
import SoloJournal.Proofs.Spelling

/-!
# What becomes of the entries of a catalog

The prompt of a card is read from the first entry with its rank in the first
entry with its suit.  A catalog without problems has such entries for every
card, and none without a name.  It has used all entries that are written in it
just when no name is spelled twice.
-/

namespace SoloJournal.Authoring

open Vocabulary (suits ranks)

variable {value : Yaml.Value}

/-- What is written for a card. -/
def authored? (value : Yaml.Value) (card : Card) : Option Yaml.Value := do
  let entries ← lookup? card.suit.key value
  lookup? card.rank.key entries

/-! ## Cards -/

/-- A card that is not read has a problem. -/
theorem checkCard_ne_error_nil : checkCard value ≠ .error [] := by
  intro refused
  unfold checkCard at refused
  simp only [checked_eq_error, mapError_eq_error] at refused
  rcases refused with ⟨-, none⟩ | ⟨-, ⟨found, none⟩ | ⟨-, mismatch, -, none⟩⟩
  · cases none
  · rw [none] at found
    cases found
  · cases none

/-! ## Reviews -/

namespace Reviewed

theorem mem_entries_join_iff {reviews : List Reviewed} {entry : Card × Prompt} :
    entry ∈ (join reviews).entries ↔
      ∃ review ∈ reviews, entry ∈ review.entries :=
  List.mem_flatMap

end Reviewed

namespace CatalogProblem

/-- What is reported of a key that is no suit. -/
def ofSuitKey (key : Yaml.Value) : CatalogProblem :=
  match keyText? key with
  | some text => .unknownSuit text
  | none => .suitKeyNotText

/-- What is reported of a key that is no rank. -/
def ofRankKey (suit : Suit) (key : Yaml.Value) : CatalogProblem :=
  .unknownRank ((keyText? key).getD "") suit

end CatalogProblem

open CatalogProblem (ofSuitKey ofRankKey)

theorem mem_unknownSuits_iff {entries : List Entry} {problem : CatalogProblem} :
    problem ∈ unknownSuits entries ↔
      ∃ entry ∈ entries, suits.named? entry = none ∧
        ofSuitKey entry.1 = problem := by
  unfold unknownSuits
  rw [List.mem_filterMap]
  apply exists_congr
  rintro ⟨key, written⟩
  rw [Vocabulary.named?_suits]
  cases spelled : keyText? key with
  | none => simp [ofSuitKey, spelled]
  | some text => cases known : Suit.ofKey? text <;> simp [ofSuitKey, spelled, known]

theorem mem_unknownRanks_iff {suit : Suit} {entries : List Entry}
    {problem : CatalogProblem} (isMapping : value.entries? = some entries) :
    problem ∈ unknownRanks suit value ↔
      ∃ entry ∈ entries, ranks.named? entry = none ∧
        ofRankKey suit entry.1 = problem := by
  have blank : Rank.ofKey? "" = none := by decide
  unfold unknownRanks
  rw [isMapping, Option.getD_some, List.mem_filterMap]
  apply exists_congr
  rintro ⟨key, written⟩
  rw [Vocabulary.named?_ranks]
  cases spelled : keyText? key with
  | none => simp [ofRankKey, spelled, blank]
  | some text => cases known : Rank.ofKey? text <;> simp [ofRankKey, spelled, known]

theorem unknownSuits_eq_nil_iff {entries : List Entry} :
    unknownSuits entries = [] ↔
      ∀ entry ∈ entries, (suits.named? entry).isSome := by
  simp only [List.eq_nil_iff_forall_not_mem, mem_unknownSuits_iff,
    Option.isSome_iff_ne_none]
  constructor
  · intro flawless entry member unnamed
    exact flawless _ ⟨entry, member, unnamed, rfl⟩
  · rintro known problem ⟨entry, member, unnamed, -⟩
    exact known entry member unnamed

theorem unknownRanks_eq_nil_iff {suit : Suit} {entries : List Entry}
    (isMapping : value.entries? = some entries) :
    unknownRanks suit value = [] ↔
      ∀ entry ∈ entries, (ranks.named? entry).isSome := by
  simp only [List.eq_nil_iff_forall_not_mem, mem_unknownRanks_iff isMapping,
    Option.isSome_iff_ne_none]
  constructor
  · intro flawless entry member unnamed
    exact flawless _ ⟨entry, member, unnamed, rfl⟩
  · rintro known problem ⟨entry, member, unnamed, -⟩
    exact known entry member unnamed

theorem reviewCard_eq_nil_iff {suit : Suit} {rank : Rank} :
    (reviewCard suit value rank).problems = [] ↔
      ∃ found prompt, lookup? rank.key value = some found ∧
        checkCard found = .ok prompt := by
  unfold reviewCard
  cases looked : lookup? rank.key value with
  | none => simp [Reviewed.ofProblems]
  | some found =>
      cases checked : checkCard found with
      | ok prompt => simp [checked]
      | error problems =>
          have some : problems ≠ [] := by
            rintro rfl
            exact checkCard_ne_error_nil checked
          simp [checked, some, Reviewed.ofProblems]

theorem mem_reviewCard_iff {suit : Suit} {rank : Rank} {card : Card}
    {prompt : Prompt} :
    (card, prompt) ∈ (reviewCard suit value rank).entries ↔
      card = ⟨suit, rank⟩ ∧ ∃ found, lookup? rank.key value = some found ∧
        checkCard found = .ok prompt := by
  unfold reviewCard
  cases looked : lookup? rank.key value with
  | none => simp [Reviewed.ofProblems]
  | some found =>
      cases checked : checkCard found with
      | ok read => simp [checked, eq_comm]
      | error problems => simp [checked, Reviewed.ofProblems]

theorem problems_reviewSuit {suit : Suit} {mapping : Yaml.Value}
    (looked : lookup? suit.key value = some mapping) :
    (reviewSuit value suit).problems =
      unknownRanks suit mapping ++
        Rank.all.flatMap fun rank => (reviewCard suit mapping rank).problems := by
  unfold reviewSuit
  rw [looked]
  simp [Reviewed.join, Reviewed.ofProblems, List.flatMap_map]

theorem problems_checkCatalog {entries : List Entry}
    (isMapping : value.entries? = some entries) :
    (checkCatalog value).2 =
      unknownSuits entries ++
        Suit.all.flatMap fun suit => (reviewSuit value suit).problems := by
  show (reviewCatalog value).problems = _
  unfold reviewCatalog
  rw [isMapping]
  simp [Reviewed.join, Reviewed.ofProblems, List.flatMap_map]

/-- The mapping of a suit has no problems when its keys are all ranks and a
card is read for every rank. -/
theorem reviewSuit_eq_nil_iff {suit : Suit} :
    (reviewSuit value suit).problems = [] ↔
      ∃ found, lookup? suit.key value = some found ∧
        unknownRanks suit found = [] ∧
          ∀ rank, (reviewCard suit found rank).problems = [] := by
  cases looked : lookup? suit.key value with
  | none => simp [reviewSuit, looked, Reviewed.ofProblems]
  | some found => simp [problems_reviewSuit looked]

theorem mem_reviewSuit_iff {suit : Suit} {card : Card} {prompt : Prompt} :
    (card, prompt) ∈ (reviewSuit value suit).entries ↔
      card.suit = suit ∧ ∃ found, authored? value card = some found ∧
        checkCard found = .ok prompt := by
  unfold reviewSuit
  cases looked : lookup? suit.key value with
  | none =>
      simp only [Reviewed.ofProblems, List.not_mem_nil, false_iff]
      rintro ⟨rfl, found, wanted, -⟩
      simp [authored?, looked] at wanted
  | some mapping =>
      simp only [Reviewed.mem_entries_join_iff]
      constructor
      · rintro ⟨review, reviewMember, member⟩
        rcases List.mem_cons.mp reviewMember with rfl | reviewMember
        · simp [Reviewed.ofProblems] at member
        · obtain ⟨rank, -, rfl⟩ := List.mem_map.mp reviewMember
          obtain ⟨rfl, read⟩ := mem_reviewCard_iff.mp member
          refine ⟨rfl, ?_⟩
          simpa [authored?, looked] using read
      · rintro ⟨rfl, found, wanted, read⟩
        have wantedHere : lookup? card.rank.key mapping = some found := by
          simpa [authored?, looked] using wanted
        refine ⟨reviewCard card.suit mapping card.rank, ?_, ?_⟩
        · apply List.mem_cons_of_mem
          exact List.mem_map_of_mem (Rank.mem_all card.rank)
        · exact mem_reviewCard_iff.mpr ⟨rfl, found, wantedHere, read⟩

/-- The entries of a reviewed catalog are the cards that are read from what is
written for them. -/
theorem mem_reviewCatalog_iff {card : Card} {prompt : Prompt} :
    (card, prompt) ∈ (reviewCatalog value).entries ↔
      ∃ found, authored? value card = some found ∧
        checkCard found = .ok prompt := by
  unfold reviewCatalog
  cases isMapping : value.entries? with
  | none => simp [Reviewed.ofProblems, authored?, lookup?, isMapping]
  | some entries =>
      simp only [Reviewed.mem_entries_join_iff]
      constructor
      · rintro ⟨review, reviewMember, member⟩
        rcases List.mem_cons.mp reviewMember with rfl | reviewMember
        · simp [Reviewed.ofProblems] at member
        · obtain ⟨suit, -, rfl⟩ := List.mem_map.mp reviewMember
          exact (mem_reviewSuit_iff.mp member).2
      · intro read
        refine ⟨reviewSuit value card.suit, ?_, ?_⟩
        · apply List.mem_cons_of_mem
          exact List.mem_map_of_mem (Suit.mem_all card.suit)
        · exact mem_reviewSuit_iff.mpr ⟨rfl, read⟩

/-- A catalog has a prompt for a card just when the prompt is read from what is
written for the card. -/
theorem prompt?_checkCatalog_eq_some_iff {card : Card} {prompt : Prompt} :
    (checkCatalog value).1.prompt? card = some prompt ↔
      ∃ found, authored? value card = some found ∧
        checkCard found = .ok prompt := by
  have lookedUp : (checkCatalog value).1.prompt? card =
      (reviewCatalog value).entries.reverse.lookup card :=
    rfl
  rw [lookedUp]
  constructor
  · intro looked
    obtain ⟨front, back, same, -⟩ := List.lookup_eq_some_iff.mp looked
    apply mem_reviewCatalog_iff.mp
    rw [← List.mem_reverse, same]
    simp
  · rintro ⟨found, wanted, read⟩
    apply lookup_eq_some_of_unique
    · exact List.mem_reverse.mpr (mem_reviewCatalog_iff.mpr ⟨found, wanted, read⟩)
    · intro other member
      obtain ⟨otherFound, otherWanted, otherRead⟩ :=
        mem_reviewCatalog_iff.mp (List.mem_reverse.mp member)
      rw [wanted] at otherWanted
      cases otherWanted
      rw [read] at otherRead
      exact (Except.ok.inj otherRead).symm

theorem checkCatalog_eq_nil_iff :
    (checkCatalog value).2 = [] ↔
      ∃ entries, value.entries? = some entries ∧ unknownSuits entries = [] ∧
        ∀ suit, (reviewSuit value suit).problems = [] := by
  cases isMapping : value.entries? with
  | none => simp [checkCatalog, reviewCatalog, isMapping, Reviewed.ofProblems]
  | some entries => simp [problems_checkCatalog isMapping]

/-! ## Entries -/

/-- Every entry of a suit has a rank, and the prompts of the suit are read from
the first entries with their ranks. -/
def FirstRanksRead (catalog : Catalog) (suit : Suit) (entries : List Entry) :
    Prop :=
  (∀ entry ∈ entries, (ranks.named? entry).isSome) ∧
    ∀ rank, ∃ entry prompt, ranks.first? rank entries = some entry ∧
      checkCard entry.2 = .ok prompt ∧
        catalog.prompt? ⟨suit, rank⟩ = some prompt

/-- Every entry of a catalog has a suit, and the prompts of the catalog are
read from the first entries with their suits. -/
def FirstSuitsRead (catalog : Catalog) (entries : List Entry) : Prop :=
  (∀ entry ∈ entries, (suits.named? entry).isSome) ∧
    ∀ suit, ∃ entry written, suits.first? suit entries = some entry ∧
      entry.2.entries? = some written ∧ FirstRanksRead catalog suit written

/-- The entries of a suit are one for each rank, and all of them are read. -/
def AllRanksRead (catalog : Catalog) (suit : Suit) (entries : List Entry) :
    Prop :=
  ranks.NamesEachOnce entries ∧
    ∀ entry ∈ entries, ∃ rank prompt, ranks.named? entry = some rank ∧
      checkCard entry.2 = .ok prompt ∧
        catalog.prompt? ⟨suit, rank⟩ = some prompt

/-- The entries of a catalog are one for each suit, and all of them are read. -/
def AllSuitsRead (catalog : Catalog) (entries : List Entry) : Prop :=
  suits.NamesEachOnce entries ∧
    ∀ entry ∈ entries, ∃ suit written, suits.named? entry = some suit ∧
      entry.2.entries? = some written ∧ AllRanksRead catalog suit written

/-- No suit is spelled twice, and within no suit a rank. -/
def NoNameTwice (entries : List Entry) : Prop :=
  (entries.map suits.named?).Nodup ∧
    ∀ entry ∈ entries, ∀ written, entry.2.entries? = some written →
      (written.map ranks.named?).Nodup

theorem allRanksRead_iff {catalog : Catalog} {suit : Suit}
    {entries : List Entry} (first : FirstRanksRead catalog suit entries) :
    AllRanksRead catalog suit entries ↔
      (entries.map ranks.named?).Nodup := by
  obtain ⟨known, read⟩ := first
  have given : ∀ rank, (ranks.first? rank entries).isSome := by
    intro rank
    obtain ⟨entry, -, found, -⟩ := read rank
    rw [found]
    rfl
  have once := ranks.namesEachOnce_iff known given
  constructor
  · rintro ⟨each, -⟩
    exact once.mp each
  · intro nodup
    refine ⟨once.mpr nodup, ?_⟩
    intro entry member
    obtain ⟨rank, named⟩ := Option.isSome_iff_exists.mp (known entry member)
    obtain ⟨other, prompt, found, checked, prompted⟩ := read rank
    rw [ranks.first?_of_nodup nodup member named] at found
    cases found
    exact ⟨rank, prompt, named, checked, prompted⟩

theorem allSuitsRead_iff {catalog : Catalog} {entries : List Entry}
    (first : FirstSuitsRead catalog entries) :
    AllSuitsRead catalog entries ↔ NoNameTwice entries := by
  obtain ⟨known, read⟩ := first
  have given : ∀ suit, (suits.first? suit entries).isSome := by
    intro suit
    obtain ⟨entry, -, found, -⟩ := read suit
    rw [found]
    rfl
  have once := suits.namesEachOnce_iff known given
  constructor
  · rintro ⟨each, all⟩
    refine ⟨once.mp each, ?_⟩
    intro entry member written isMapping
    obtain ⟨suit, other, -, sameMapping, allRanks⟩ := all entry member
    rw [isMapping] at sameMapping
    cases sameMapping
    exact ranks.nodup_of_namesEachOnce allRanks.1
  · rintro ⟨nodup, nodupRanks⟩
    refine ⟨once.mpr nodup, ?_⟩
    intro entry member
    obtain ⟨suit, named⟩ := Option.isSome_iff_exists.mp (known entry member)
    obtain ⟨other, written, found, isMapping, firstRanks⟩ := read suit
    rw [suits.first?_of_nodup nodup member named] at found
    cases found
    exact ⟨suit, written, named, isMapping,
      (allRanksRead_iff firstRanks).mpr (nodupRanks entry member written isMapping)⟩

/-- In a catalog without problems the first entries have been read. -/
theorem firstSuitsRead_of_flawless (flawless : (checkCatalog value).2 = []) :
    ∃ entries, value.entries? = some entries ∧
      FirstSuitsRead (checkCatalog value).1 entries := by
  obtain ⟨entries, isMapping, suitsKnown, reviewed⟩ :=
    checkCatalog_eq_nil_iff.mp flawless
  refine ⟨entries, isMapping, unknownSuits_eq_nil_iff.mp suitsKnown, ?_⟩
  intro suit
  obtain ⟨mapping, looked, ranksKnown, cards⟩ :=
    reviewSuit_eq_nil_iff.mp (reviewed suit)
  obtain ⟨entries', entry, same, first, rfl⟩ :=
    suits.lookup?_eq_some_iff.mp looked
  rw [isMapping] at same
  cases same
  -- a suit without a mapping would have no card at all
  obtain ⟨_, _, ace, -⟩ := reviewCard_eq_nil_iff.mp (cards .ace)
  obtain ⟨written, -, writtenHere, -⟩ := ranks.lookup?_eq_some_iff.mp ace
  refine ⟨entry, written, first, writtenHere,
    (unknownRanks_eq_nil_iff writtenHere).mp ranksKnown, ?_⟩
  intro rank
  obtain ⟨found, prompt, lookedRank, read⟩ :=
    reviewCard_eq_nil_iff.mp (cards rank)
  have wanted : authored? value ⟨suit, rank⟩ = some found := by
    simpa [authored?, looked] using lookedRank
  obtain ⟨written', authored, same, firstRank, rfl⟩ :=
    ranks.lookup?_eq_some_iff.mp lookedRank
  rw [writtenHere] at same
  cases same
  exact ⟨authored, prompt, firstRank, read,
    prompt?_checkCatalog_eq_some_iff.mpr ⟨authored.2, wanted, read⟩⟩

/-- A catalog without problems has a prompt for every card. -/
theorem isComplete_of_flawless (flawless : (checkCatalog value).2 = []) :
    (checkCatalog value).1.isComplete = true := by
  obtain ⟨entries, -, -, read⟩ := firstSuitsRead_of_flawless flawless
  apply Catalog.isComplete_iff.mpr
  intro card
  obtain ⟨-, written, -, -, -, readRanks⟩ := read card.suit
  obtain ⟨-, prompt, -, -, prompted⟩ := readRanks card.rank
  exact Option.isSome_iff_exists.mpr ⟨prompt, prompted⟩

/-- In a catalog without problems every entry has a name, and every prompt is
read from the first entry with its rank in the first entry with its suit.  So
the entries are one for each suit, and in each of these one for each rank, and
every one of them is the one that the prompt of its card is read from, just when
no name is spelled twice. -/
theorem every_entry_read_iff (flawless : (checkCatalog value).2 = []) :
    ∃ entries, value.entries? = some entries ∧
      FirstSuitsRead (checkCatalog value).1 entries ∧
        (AllSuitsRead (checkCatalog value).1 entries ↔
          NoNameTwice entries) := by
  obtain ⟨entries, isMapping, first⟩ := firstSuitsRead_of_flawless flawless
  exact ⟨entries, isMapping, first, allSuitsRead_iff first⟩

/-- What an author might write for a card. -/
def plainCard (title : String) : Yaml.Value :=
  .mapping [(.string "title", .string title), (.string "description", .string "")]

/-- The same card for every rank, with the keys in small letters. -/
def plainSuit : List Entry :=
  Rank.all.map fun rank => (.string rank.key.toLower, plainCard "written")

/-- The same entries for every suit, with the keys in capitals. -/
def plainCatalog (entries : List Entry) : List Entry :=
  Suit.all.map fun suit => (.string suit.key.toUpper, .mapping entries)

theorem noNameTwice_plainCatalog {entries : List Entry}
    (nodup : (entries.map ranks.named?).Nodup) :
    NoNameTwice (plainCatalog entries) := by
  constructor
  · have names : (plainCatalog entries).map suits.named? =
        (plainCatalog []).map suits.named? := by
      simp [plainCatalog, Function.comp_def, Vocabulary.named?]
    rw [names]
    decide +kernel
  · intro entry member written isMapping
    obtain ⟨suit, -, rfl⟩ := List.mem_map.mp member
    cases isMapping
    exact nodup

theorem every_entry_read_iff_plain :
    (checkCatalog (.mapping (plainCatalog plainSuit))).2 = [] ∧
      AllSuitsRead (checkCatalog (.mapping (plainCatalog plainSuit))).1
        (plainCatalog plainSuit) := by
  have flawless : (checkCatalog (.mapping (plainCatalog plainSuit))).2 = [] := by
    decide +kernel
  have once : NoNameTwice (plainCatalog plainSuit) :=
    noNameTwice_plainCatalog (by decide +kernel)
  obtain ⟨entries, ⟨⟩, -, all⟩ := every_entry_read_iff flawless
  exact ⟨flawless, all.mpr once⟩

/-- A card for a rank that already has one, its key a number. -/
def tenAgain : List Entry :=
  plainSuit ++ [(.int 10, plainCard "dropped")]

/-- A number and a text can spell the same rank.  Of the two cards, both of
which can be read, the second is dropped, and nothing is reported. -/
theorem ten_written_twice :
    (checkCatalog (.mapping (plainCatalog tenAgain))).2 = [] ∧
      (∃ prompt, checkCard (plainCard "dropped") = .ok prompt ∧
        ∀ card, (checkCatalog (.mapping (plainCatalog tenAgain))).1.prompt? card ≠
          some prompt) ∧
      tenAgain.length = 14 ∧
      ¬ AllSuitsRead (checkCatalog (.mapping (plainCatalog tenAgain))).1
          (plainCatalog tenAgain) := by
  have dropped : ∀ card ∈ Card.all,
      (checkCatalog (.mapping (plainCatalog tenAgain))).1.prompt? card ≠
        some ⟨"dropped", "", 0, 0⟩ := by
    decide +kernel
  refine ⟨by decide +kernel, ⟨⟨"dropped", "", 0, 0⟩, rfl, ?_⟩, rfl, ?_⟩
  · intro card
    exact dropped card (Card.mem_all card)
  · rintro ⟨-, all⟩
    obtain ⟨suit, written, -, ⟨⟩, once, -⟩ :=
      all _ (List.mem_map_of_mem (Suit.mem_all .spades))
    have thirteen := once.length_eq
    simp [tenAgain, plainSuit, Rank.all, ranks] at thirteen

end SoloJournal.Authoring
