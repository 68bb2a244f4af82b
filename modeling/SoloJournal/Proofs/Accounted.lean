import SoloJournal.Proofs.Validation

/-!
# Every card is accounted for

A catalog has a prompt for a card, or there are problems that are about the
card, and never both.  Every key that is no suit, and in the mapping of a suit no
rank, is reported as well.  So a catalog without problems is complete, and one
that is refused has problems.
-/

namespace SoloJournal

/-- Where only one item adds anything, the whole is what that item adds. -/
theorem flatMap_eq_of_single {α β : Type} {items : List α} {item : α}
    {part : α → List β} (nodup : items.Nodup) (member : item ∈ items)
    (others : ∀ other ∈ items, other ≠ item → part other = []) :
    items.flatMap part = part item := by
  induction items with
  | nil => cases member
  | cons head tail induction =>
      obtain ⟨fresh, nodupTail⟩ := List.nodup_cons.mp nodup
      have othersTail : ∀ other ∈ tail, other ≠ item → part other = [] := by
        intro other otherMember
        exact others other (List.mem_cons_of_mem head otherMember)
      rw [List.flatMap_cons]
      rcases List.mem_cons.mp member with rfl | memberTail
      · have rest : tail.flatMap part = [] := by
          apply List.flatMap_eq_nil_iff.mpr
          intro other otherMember
          apply othersTail other otherMember
          rintro rfl
          exact fresh otherMember
        rw [rest, List.append_nil]
      · have first : part head = [] := by
          apply others head List.mem_cons_self
          rintro rfl
          exact fresh memberTail
        rw [first, List.nil_append]
        exact induction nodupTail memberTail othersTail

/-- No card has a name that another card's name begins with. -/
theorem Card.text_prefix_iff {left right : Card} {rest : List Char} :
    left.text.toList <+: right.text.toList ++ rest ↔ right = left := by
  have apart : ∀ left ∈ Card.all, ∀ right ∈ Card.all,
      left.text.toList <+: right.text.toList → right = left := by
    decide +kernel
  have whole : right.text.toList <+: right.text.toList ++ rest :=
    List.prefix_append ..
  constructor
  · intro starts
    rcases List.prefix_or_prefix_of_prefix starts whole with shorter | longer
    · exact apart left (Card.mem_all left) right (Card.mem_all right) shorter
    · exact (apart right (Card.mem_all right) left (Card.mem_all left) longer).symm
  · rintro rfl
    exact whole

theorem Card.text_eq_iff {left right : Card} :
    left.text = right.text ↔ left = right := by
  constructor
  · intro same
    have starts : right.text.toList <+: left.text.toList ++ [] :=
      ⟨[], by rw [same]⟩
    exact Card.text_prefix_iff.mp starts
  · rintro rfl
    rfl

namespace Authoring

open Vocabulary (suits ranks)

variable {value : Yaml.Value} {card : Card} {suit : Suit} {rank : Rank}

/-! ## Problems about a card -/

namespace CatalogProblem

/-- Whether a problem is why a card is not in the catalog. -/
def concerns (card : Card) : CatalogProblem → Bool
  | missingSuit suit => suit = card.suit
  | missingCard missing => missing = card
  | badCard bad _ => bad = card
  | _ => false

/-- Whether a text tells why a card is not in the catalog. -/
def TellsOf (card : Card) (text : String) : Prop :=
  text = "Missing suit: " ++ card.suit.key ∨
    text = "Missing card: " ++ card.text ∨
    ("Card " ++ card.text).toList <+: text.toList ∨
    ("Invalid card data for " ++ card.text).toList <+: text.toList

theorem bad_message (card : Card) (problem : CardProblem) :
    ∃ rest, problem.message card = "Card " ++ card.text ++ rest ∨
      problem.message card = "Invalid card data for " ++ card.text ++ rest := by
  cases problem with
  | notMapping => exact ⟨"", .inr String.append_empty.symm⟩
  | missingField name =>
      exact ⟨" missing required field: " ++ name, .inl (String.append_assoc ..)⟩
  | tokensNotWhole => exact ⟨" has non-integer tokens", .inl rfl⟩
  | blocksNotNatural =>
      exact ⟨" blocks must be a non-negative integer", .inl rfl⟩
  | mistyped mismatch =>
      exact ⟨": " ++ mismatch.message, .inr (String.append_assoc ..)⟩

/-- The text of a problem tells which cards the problem is about. -/
theorem tellsOf_message_iff (problem : CatalogProblem) :
    TellsOf card problem.message ↔ problem.concerns card = true := by
  cases problem with
  | notMapping =>
      change TellsOf card "Cards must be a mapping of suits" ↔ false = true
      simp [TellsOf, String.ext_iff]
  | unknownSuit key =>
      change TellsOf card ("Unknown suit: " ++ key) ↔ false = true
      simp [TellsOf, String.ext_iff]
  | suitKeyNotText =>
      change TellsOf card "Suit keys must be strings" ↔ false = true
      simp [TellsOf, String.ext_iff]
  | missingSuit suit =>
      have same : suit.key.toList = card.suit.key.toList ↔ suit = card.suit := by
        cases suit <;> cases card.suit <;> decide
      change TellsOf card ("Missing suit: " ++ suit.key) ↔
        decide (suit = card.suit) = true
      simp [TellsOf, String.ext_iff, same]
  | unknownRank key suit =>
      change TellsOf card ("Unknown card: " ++ key ++ " of " ++ suit.key) ↔
        false = true
      simp [TellsOf, String.ext_iff]
  | missingCard missing =>
      have same : missing.text.toList = card.text.toList ↔ missing = card :=
        String.toList_inj.trans Card.text_eq_iff
      change TellsOf card ("Missing card: " ++ missing.text) ↔
        decide (missing = card) = true
      simp [TellsOf, String.ext_iff, same]
  | badCard bad problem =>
      change TellsOf card (problem.message bad) ↔ decide (bad = card) = true
      obtain ⟨rest, same | same⟩ := bad_message bad problem
      all_goals
        simp [TellsOf, same, String.ext_iff, Card.text_prefix_iff]

theorem concerns_eq_of_message_eq {problem other : CatalogProblem}
    (same : problem.message = other.message) :
    problem.concerns card = other.concerns card := by
  rw [Bool.eq_iff_iff, ← tellsOf_message_iff, ← tellsOf_message_iff, same]

end CatalogProblem

open CatalogProblem (concerns concerns_eq_of_message_eq ofSuitKey ofRankKey)

/-! ## The problems of a review -/

theorem filter_concerns_unknownSuits {entries : List Entry} :
    (unknownSuits entries).filter (concerns card) = [] := by
  apply List.filter_eq_nil_iff.mpr
  intro problem member
  obtain ⟨⟨key, written⟩, -, -, rfl⟩ := mem_unknownSuits_iff.mp member
  cases spelled : keyText? key <;> simp [ofSuitKey, spelled, concerns]

theorem filter_concerns_unknownRanks :
    (unknownRanks suit value).filter (concerns card) = [] := by
  apply List.filter_eq_nil_iff.mpr
  intro problem member
  cases isMapping : value.entries? with
  | none => simp [unknownRanks, isMapping] at member
  | some written =>
      obtain ⟨entry, -, -, rfl⟩ := (mem_unknownRanks_iff isMapping).mp member
      simp [ofRankKey, concerns]

theorem concerns_reviewCard {problem : CatalogProblem}
    (member : problem ∈ (reviewCard suit value rank).problems) :
    problem.concerns card = decide ((⟨suit, rank⟩ : Card) = card) := by
  unfold reviewCard at member
  cases looked : lookup? rank.key value with
  | none =>
      simp only [looked, Reviewed.ofProblems, List.mem_singleton] at member
      rw [member]
      rfl
  | some found =>
      cases checked : checkCard found with
      | ok prompt => simp [looked, checked] at member
      | error problems =>
          simp only [looked, checked, Reviewed.ofProblems, List.mem_map] at member
          obtain ⟨problem, -, rfl⟩ := member
          rfl

theorem filter_concerns_reviewCard :
    (reviewCard suit value rank).problems.filter (concerns card) =
      if (⟨suit, rank⟩ : Card) = card then (reviewCard suit value rank).problems
      else [] := by
  split
  case isTrue same =>
    apply List.filter_eq_self.mpr
    intro problem member
    rw [concerns_reviewCard member]
    exact decide_eq_true same
  case isFalse apart =>
    apply List.filter_eq_nil_iff.mpr
    intro problem member
    rw [concerns_reviewCard member]
    simpa using apart

theorem filter_concerns_reviewSuit {mapping : Yaml.Value}
    (looked : lookup? suit.key value = some mapping) :
    (reviewSuit value suit).problems.filter (concerns card) =
      Rank.all.flatMap fun rank =>
        if (⟨suit, rank⟩ : Card) = card then (reviewCard suit mapping rank).problems
        else [] := by
  simp only [problems_reviewSuit looked, List.filter_append, List.filter_flatMap,
    filter_concerns_unknownRanks, filter_concerns_reviewCard, List.nil_append]

theorem filter_concerns_reviewSuit_of_ne (apart : suit ≠ card.suit) :
    (reviewSuit value suit).problems.filter (concerns card) = [] := by
  cases looked : lookup? suit.key value with
  | none => simp [reviewSuit, looked, Reviewed.ofProblems, concerns, apart]
  | some mapping =>
      rw [filter_concerns_reviewSuit looked]
      apply List.flatMap_eq_nil_iff.mpr
      intro rank _
      exact if_neg (mt (congrArg Card.suit) apart)

/-- The problems about a card are those that are found where its suit is
looked up, and then its rank. -/
theorem filter_concerns_checkCatalog {entries : List Entry}
    (isMapping : value.entries? = some entries) :
    (checkCatalog value).2.filter (concerns card) =
      match lookup? card.suit.key value with
      | none => [.missingSuit card.suit]
      | some mapping => (reviewCard card.suit mapping card.rank).problems := by
  have nodupSuits : Suit.all.Nodup := suits.nodup_all
  have nodupRanks : Rank.all.Nodup := ranks.nodup_all
  simp only [problems_checkCatalog isMapping, List.filter_append,
    List.filter_flatMap, filter_concerns_unknownSuits, List.nil_append]
  rw [flatMap_eq_of_single nodupSuits (Suit.mem_all card.suit)]
  · cases looked : lookup? card.suit.key value with
    | none => simp [reviewSuit, looked, Reviewed.ofProblems, concerns]
    | some mapping =>
        rw [filter_concerns_reviewSuit looked,
          flatMap_eq_of_single nodupRanks (Rank.mem_all card.rank)]
        · exact if_pos rfl
        · intro other _ apart
          exact if_neg (mt (congrArg Card.rank) apart)
  · intro other _ apart
    exact filter_concerns_reviewSuit_of_ne apart

theorem prompt?_checkCatalog_eq :
    (checkCatalog value).1.prompt? card =
      (authored? value card).bind fun found => (checkCard found).toOption := by
  apply Option.ext
  intro prompt
  rw [prompt?_checkCatalog_eq_some_iff, Option.bind_eq_some_iff]
  apply exists_congr
  intro found
  apply and_congr_right
  rintro -
  cases checkCard found <;> simp [Except.toOption]

/-! ## What becomes of a card -/

/-- What can become of a card: its suit is missing, or it is missing in the
mapping of its suit, or it is bad, or it is read.  What counts is the first entry
with its rank in the first entry with its suit. -/
inductive Fate (entries : List Entry) (card : Card) :
    Option Prompt → List CatalogProblem → Prop where
  | suitMissing (absent : suits.first? card.suit entries = none) :
      Fate entries card none [.missingSuit card.suit]
  | missing {entry : Entry} (first : suits.first? card.suit entries = some entry)
      (absent : ∀ written, entry.2.entries? = some written →
        ranks.first? card.rank written = none) :
      Fate entries card none [.missingCard card]
  | bad {entry authored : Entry} {written : List Entry}
      {problems : List CardProblem}
      (first : suits.first? card.suit entries = some entry)
      (isMapping : entry.2.entries? = some written)
      (firstRank : ranks.first? card.rank written = some authored)
      (refused : checkCard authored.2 = .error problems)
      (some : problems ≠ []) :
      Fate entries card none (problems.map (.badCard card))
  | read {entry authored : Entry} {written : List Entry} {prompt : Prompt}
      (first : suits.first? card.suit entries = some entry)
      (isMapping : entry.2.entries? = some written)
      (firstRank : ranks.first? card.rank written = some authored)
      (read : checkCard authored.2 = .ok prompt) :
      Fate entries card (some prompt) []

/-- A card has a prompt just when no problem is about it. -/
theorem Fate.isSome_eq_isEmpty {entries : List Entry} {prompt : Option Prompt}
    {problems : List CatalogProblem}
    (fate : Fate entries card prompt problems) :
    prompt.isSome = problems.isEmpty := by
  cases fate with
  | suitMissing absent => rfl
  | missing first absent => rfl
  | bad first isMapping firstRank refused some => simp [some]
  | read first isMapping firstRank read => rfl

theorem fate_checkCatalog {entries : List Entry}
    (isMapping : value.entries? = some entries) (card : Card) :
    Fate entries card ((checkCatalog value).1.prompt? card)
      ((checkCatalog value).2.filter (concerns card)) := by
  rw [prompt?_checkCatalog_eq, filter_concerns_checkCatalog isMapping]
  unfold authored?
  cases looked : lookup? card.suit.key value with
  | none =>
      exact .suitMissing (suits.lookup?_eq_none_iff.mp looked entries isMapping)
  | some mapping =>
      obtain ⟨_, entry, same, first, rfl⟩ := suits.lookup?_eq_some_iff.mp looked
      rw [isMapping] at same
      cases same
      unfold reviewCard
      cases lookedRank : lookup? card.rank.key entry.2 with
      | none =>
          simp only [Option.bind_eq_bind, Option.bind_some, lookedRank]
          exact .missing first (ranks.lookup?_eq_none_iff.mp lookedRank)
      | some found =>
          obtain ⟨written, authored, writtenHere, firstRank, rfl⟩ :=
            ranks.lookup?_eq_some_iff.mp lookedRank
          simp only [Option.bind_eq_bind, Option.bind_some, lookedRank]
          cases checked : checkCard authored.2 with
          | ok prompt => exact .read first writtenHere firstRank checked
          | error problems =>
              apply Fate.bad first writtenHere firstRank checked
              rintro rfl
              exact checkCard_ne_error_nil checked

/-- Every entry of a catalog is accounted for. -/
structure AccountsFor (entries : List Entry) (catalog : Catalog)
    (problems : List CatalogProblem) : Prop where
  fate : ∀ card,
    Fate entries card (catalog.prompt? card) (problems.filter (concerns card))
  isSome_iff : ∀ card, (catalog.prompt? card).isSome = true ↔
    ∀ problem ∈ problems, problem.concerns card = false
  unknown_suits : ∀ entry ∈ entries, suits.named? entry = none →
    ofSuitKey entry.1 ∈ problems
  unknown_ranks : ∀ suit entry written,
    suits.first? suit entries = some entry → entry.2.entries? = some written →
    ∀ authored ∈ written, ranks.named? authored = none →
      ofRankKey suit authored.1 ∈ problems

theorem accountsFor_checkCatalog {entries : List Entry}
    (isMapping : value.entries? = some entries) :
    AccountsFor entries (checkCatalog value).1 (checkCatalog value).2 where
  fate := fate_checkCatalog isMapping
  isSome_iff card := by
    rw [(fate_checkCatalog isMapping card).isSome_eq_isEmpty]
    simp
  unknown_suits := by
    intro entry member unnamed
    rw [problems_checkCatalog isMapping]
    apply List.mem_append_left
    exact mem_unknownSuits_iff.mpr ⟨entry, member, unnamed, rfl⟩
  unknown_ranks := by
    intro suit entry written first writtenHere authored member unnamed
    have looked : lookup? suit.key value = some entry.2 :=
      suits.lookup?_eq_some_iff.mpr ⟨entries, entry, isMapping, first, rfl⟩
    have inSuit : ofRankKey suit authored.1 ∈ (reviewSuit value suit).problems := by
      rw [problems_reviewSuit looked]
      apply List.mem_append_left
      exact (mem_unknownRanks_iff writtenHere).mpr ⟨authored, member, unnamed, rfl⟩
    rw [problems_checkCatalog isMapping]
    apply List.mem_append_right
    exact List.mem_flatMap.mpr ⟨suit, Suit.mem_all suit, inSuit⟩

/-- Every card is either in a catalog or has problems, and every key without a
name is reported, in whatever mapping the catalog is written; a value that is no
mapping gives no card and one problem.  The texts of the problems tell which
cards they are about.  A catalog without problems is complete, so that one that
is refused has problems. -/
theorem every_card_accounted_for (value : Yaml.Value) :
    (value.entries? = none →
      (∀ card, (checkCatalog value).1.prompt? card = none) ∧
        (checkCatalog value).2 = [.notMapping]) ∧
      (∀ entries, value.entries? = some entries →
        AccountsFor entries (checkCatalog value).1 (checkCatalog value).2) ∧
      (∀ (problem other : CatalogProblem), problem.message = other.message →
        ∀ card, problem.concerns card = other.concerns card) ∧
      ((checkCatalog value).2 = [] → (checkCatalog value).1.isComplete = true) ∧
      ∀ (tree : FileTree) (dir path : String) (problems : List CatalogProblem),
        loadCatalog tree dir = .error (.malformedCatalog path problems) →
          problems ≠ [] := by
  refine ⟨?_, fun entries => accountsFor_checkCatalog,
    fun problem other same card => concerns_eq_of_message_eq same,
    isComplete_of_flawless, ?_⟩
  · intro noMapping
    unfold checkCatalog reviewCatalog
    rw [noMapping]
    exact ⟨fun card => rfl, rfl⟩
  · intro tree dir path problems refused
    cases loadCatalog_eq_error_iff.mp refused with
    | content read some same => exact some

/-- A catalog with one card that is read, one that is bad, and a suit that is
none. -/
def sparseCatalog : List Entry :=
  [(.string "Spades", .mapping [(.int 10, plainCard "ten"),
      (.string "KING", .int 5)]),
    (.string "jokers", .null)]

/-- A directory whose catalog is a list. -/
def listedCatalog : FileTree where
  nodes :=
    [(["game"], .directory), (["game", "cards.yaml"], .file "[]".toUTF8)]

theorem every_card_accounted_for_sparse :
    let (catalog, problems) := checkCatalog (.mapping sparseCatalog)
    catalog.prompt? ⟨.spades, .ten⟩ = some ⟨"ten", "", 0, 0⟩ ∧
      (∀ problem ∈ problems, problem.concerns ⟨.spades, .ten⟩ = false) ∧
      CatalogProblem.unknownSuit "jokers" ∈ problems ∧
      (checkCatalog .null).2 = [.notMapping] ∧
      (checkCatalog (.mapping (plainCatalog plainSuit))).1.isComplete = true ∧
      ∃ path problems, loadCatalog listedCatalog "game" =
        .error (.malformedCatalog path problems) ∧ problems ≠ [] := by
  obtain ⟨-, accounts, -, -, refused⟩ :=
    every_card_accounted_for (.mapping sparseCatalog)
  obtain ⟨-, isSome_iff, unknown_suits, -⟩ := accounts sparseCatalog rfl
  have ten : (checkCatalog (.mapping sparseCatalog)).1.prompt? ⟨.spades, .ten⟩ =
      some ⟨"ten", "", 0, 0⟩ := by
    decide +kernel
  refine ⟨ten, (isSome_iff _).mp (by rw [ten]; rfl), ?_, ?_, ?_, ?_⟩
  · exact unknown_suits (.string "jokers", .null) (by simp [sparseCatalog])
      (by decide +kernel)
  · exact ((every_card_accounted_for .null).1 rfl).2
  · obtain ⟨-, -, -, complete, -⟩ :=
      every_card_accounted_for (.mapping (plainCatalog plainSuit))
    exact complete (by decide +kernel)
  · have malformed : (loadCatalog listedCatalog "game").map (fun _ => ()) =
        .error (.malformedCatalog "game/cards.yaml" [.notMapping]) := by
      decide +kernel
    cases loads : loadCatalog listedCatalog "game" with
    | ok catalog =>
        rw [loads] at malformed
        cases malformed
    | error error =>
        rw [loads] at malformed
        obtain rfl := Except.error.inj malformed
        exact ⟨_, _, rfl, refused _ _ _ _ loads⟩

end Authoring

end SoloJournal
