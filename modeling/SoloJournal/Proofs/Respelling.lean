import Mathlib.Data.List.Forall2
import SoloJournal.Proofs.Accounted

/-!
# Catalogs that are spelled differently

What counts of a key is its text, without the blanks around it and in small
letters.  Where no two keys of a mapping come to the same, the order of the
entries does not count either: a catalog that is written in another order, or
with its keys spelled in another way, has the same prompts, and problems just
when the other has.
-/

namespace SoloJournal

section Lists

variable {α β : Type}

/-- Where no value is taken twice from the items, each is taken from one. -/
theorem eq_of_nodup_filterMap {taken : α → Option β} {items : List α}
    {item other : α} {value : β} (nodup : (items.filterMap taken).Nodup)
    (member : item ∈ items) (takes : taken item = some value)
    (otherMember : other ∈ items) (otherTakes : taken other = some value) :
    item = other := by
  induction items with
  | nil => cases member
  | cons head tail induction =>
      have nodupTail : (tail.filterMap taken).Nodup :=
        nodup.sublist ((List.sublist_cons_self head tail).filterMap taken)
      have fresh : taken head = some value →
          ∀ later ∈ tail, taken later ≠ some value := by
        intro headTakes later laterMember laterTakes
        rw [List.filterMap_cons_some headTakes] at nodup
        apply (List.nodup_cons.mp nodup).1
        exact List.mem_filterMap.mpr ⟨later, laterMember, laterTakes⟩
      rcases List.mem_cons.mp member with rfl | memberTail
      · rcases List.mem_cons.mp otherMember with rfl | otherTail
        · rfl
        · exact absurd otherTakes (fresh takes other otherTail)
      · rcases List.mem_cons.mp otherMember with rfl | otherTail
        · exact absurd takes (fresh otherTakes item memberTail)
        · exact induction nodupTail memberTail otherTail

theorem exists_of_forall₂ {related : α → β → Prop} {items : List α}
    {others : List β} (pairs : List.Forall₂ related items others) {item : α}
    (member : item ∈ items) : ∃ other ∈ others, related item other := by
  induction pairs with
  | nil => cases member
  | cons pair pairs induction =>
      rcases List.mem_cons.mp member with rfl | memberTail
      · exact ⟨_, List.mem_cons_self, pair⟩
      · obtain ⟨other, otherMember, pairs⟩ := induction memberTail
        exact ⟨other, List.mem_cons_of_mem _ otherMember, pairs⟩

end Lists

namespace Authoring

open Vocabulary (suits ranks)

/-! ## Keys -/

/-- What counts of a key. -/
def folded? (key : Yaml.Value) : Option (List Char) :=
  (keyText? key).map fun text => Text.foldCase (Text.trim text).toList

/-- No two keys of a mapping come to the same. -/
def KeysApart (value : Yaml.Value) : Prop :=
  ∀ entries, value.entries? = some entries →
    (entries.filterMap fun entry => folded? entry.1).Nodup

/-- The keys stand apart in a mapping and in the values of its entries. -/
def KeysApartWithin (value : Yaml.Value) : Prop :=
  KeysApart value ∧
    ∀ entries, value.entries? = some entries → ∀ entry ∈ entries,
      KeysApart entry.2

namespace Vocabulary

variable {α : Type}

theorem named?_eq_of_folded?_eq (vocabulary : Vocabulary α)
    {entry other : Entry} (same : folded? entry.1 = folded? other.1) :
    vocabulary.named? entry = vocabulary.named? other := by
  have byFolded : ∀ entry : Entry, vocabulary.named? entry =
      (folded? entry.1).bind fun chars =>
        vocabulary.all.find? fun thing =>
          Text.foldCase (vocabulary.key thing).toList == chars := by
    intro entry
    unfold named? folded?
    cases keyText? entry.1 <;> rfl
  rw [byFolded, byFolded, same]

theorem folded?_of_named? (vocabulary : Vocabulary α) {entry : Entry}
    {thing : α} (named : vocabulary.named? entry = some thing) :
    folded? entry.1 = some (Text.foldCase (vocabulary.key thing).toList) := by
  have spelled := vocabulary.named?_eq_some_iff.mp named
  unfold spells at spelled
  unfold folded?
  cases text : keyText? entry.1 with
  | none => simp [text] at spelled
  | some text => simpa [text, Text.sameIgnoringCase] using spelled

variable [DecidableEq α]

/-- Where the keys stand apart, every entry with a name is the first with it. -/
theorem first?_of_apart (vocabulary : Vocabulary α) {thing : α}
    {entries : List Entry} {entry : Entry}
    (apart : (entries.filterMap fun entry => folded? entry.1).Nodup)
    (member : entry ∈ entries) (named : vocabulary.named? entry = some thing) :
    vocabulary.first? thing entries = some entry := by
  apply find?_eq_some_of_unique member
  · exact decide_eq_true named
  · intro other otherMember otherNamed
    exact eq_of_nodup_filterMap apart otherMember
      (vocabulary.folded?_of_named? (of_decide_eq_true otherNamed)) member
      (vocabulary.folded?_of_named? named)

end Vocabulary

/-! ## Mappings that are spelled differently -/

/-- The same entries in another order, with keys that come to the same and with
values that are the same in some way. -/
def Rearranged (same : Yaml.Value → Yaml.Value → Prop)
    (entries others : List Entry) : Prop :=
  ∃ ordered, entries.Perm ordered ∧
    List.Forall₂ (fun entry other =>
      folded? entry.1 = folded? other.1 ∧ same entry.2 other.2) ordered others

/-- A value, or a mapping with the same entries in another order and with their
keys spelled in another way. -/
inductive Respelled (same : Yaml.Value → Yaml.Value → Prop) :
    Yaml.Value → Yaml.Value → Prop where
  | refl (value : Yaml.Value) : Respelled same value value
  | mapping {left right : Yaml.Value} {entries others : List Entry}
      (isMapping : left.entries? = some entries)
      (otherIsMapping : right.entries? = some others)
      (rearranged : Rearranged same entries others) : Respelled same left right

namespace Rearranged

variable {same : Yaml.Value → Yaml.Value → Prop} {entries others : List Entry}

theorem folded_perm (rearranged : Rearranged same entries others) :
    (entries.map fun entry => folded? entry.1).Perm
      (others.map fun entry => folded? entry.1) := by
  obtain ⟨ordered, permutation, pairs⟩ := rearranged
  have keys : ordered.map (fun entry => folded? entry.1) =
      others.map (fun entry => folded? entry.1) := by
    rw [← List.forall₂_eq_eq_eq, List.forall₂_map_left_iff,
      List.forall₂_map_right_iff]
    exact pairs.imp fun _ _ pair => pair.1
  rw [← keys]
  exact permutation.map _

theorem apart_iff (rearranged : Rearranged same entries others) :
    (entries.filterMap fun entry => folded? entry.1).Nodup ↔
      (others.filterMap fun entry => folded? entry.1).Nodup := by
  have texts := rearranged.folded_perm.filterMap id
  rw [List.filterMap_map, List.filterMap_map] at texts
  exact texts.nodup_iff

theorem exists_other (rearranged : Rearranged same entries others)
    {entry : Entry} (member : entry ∈ entries) :
    ∃ other ∈ others, folded? entry.1 = folded? other.1 ∧
      same entry.2 other.2 := by
  obtain ⟨ordered, permutation, pairs⟩ := rearranged
  exact exists_of_forall₂ pairs (permutation.mem_iff.mp member)

theorem exists_entry (rearranged : Rearranged same entries others)
    {other : Entry} (member : other ∈ others) :
    ∃ entry ∈ entries, folded? entry.1 = folded? other.1 ∧
      same entry.2 other.2 := by
  obtain ⟨ordered, permutation, pairs⟩ := rearranged
  obtain ⟨entry, entryMember, pair⟩ := exists_of_forall₂ pairs.flip member
  exact ⟨entry, permutation.mem_iff.mpr entryMember, pair⟩

/-- Whether all entries have a name does not depend on how they are
arranged. -/
theorem all_named_iff {α : Type} (vocabulary : Vocabulary α)
    (rearranged : Rearranged same entries others) :
    (∀ entry ∈ entries, (vocabulary.named? entry).isSome) ↔
      ∀ other ∈ others, (vocabulary.named? other).isSome := by
  constructor
  · intro known other member
    obtain ⟨entry, entryMember, sameKey, -⟩ := rearranged.exists_entry member
    rw [← vocabulary.named?_eq_of_folded?_eq sameKey]
    exact known entry entryMember
  · intro known entry member
    obtain ⟨other, otherMember, sameKey, -⟩ := rearranged.exists_other member
    rw [vocabulary.named?_eq_of_folded?_eq sameKey]
    exact known other otherMember

/-- Where the keys stand apart, the first entries with a name have values that
are the same in the way of the others. -/
theorem first?_rel {α : Type} [DecidableEq α] (vocabulary : Vocabulary α)
    (rearranged : Rearranged same entries others)
    (apart : (entries.filterMap fun entry => folded? entry.1).Nodup)
    (thing : α) :
    Option.Rel same ((vocabulary.first? thing entries).map Prod.snd)
      ((vocabulary.first? thing others).map Prod.snd) := by
  cases first : vocabulary.first? thing entries with
  | some entry =>
      obtain ⟨member, named⟩ := vocabulary.first?_eq_some first
      obtain ⟨other, otherMember, sameKey, sameValue⟩ :=
        rearranged.exists_other member
      rw [vocabulary.named?_eq_of_folded?_eq sameKey] at named
      rw [vocabulary.first?_of_apart (rearranged.apart_iff.mp apart) otherMember
        named]
      exact .some sameValue
  | none =>
      cases firstOther : vocabulary.first? thing others with
      | none => exact .none
      | some other =>
          obtain ⟨member, named⟩ := vocabulary.first?_eq_some firstOther
          obtain ⟨entry, entryMember, sameKey, -⟩ := rearranged.exists_entry member
          rw [← vocabulary.named?_eq_of_folded?_eq sameKey] at named
          rw [vocabulary.first?_of_apart apart entryMember named] at first
          cases first

end Rearranged

/-! ## Reviews -/

section Reviews

variable {same : Yaml.Value → Yaml.Value → Prop} {left right : Yaml.Value}

theorem lookup?_rel {α : Type} [DecidableEq α] (vocabulary : Vocabulary α)
    (reflexive : ∀ value, same value value) (respelled : Respelled same left right)
    (apart : KeysApart left) (thing : α) :
    Option.Rel same (lookup? (vocabulary.key thing) left)
      (lookup? (vocabulary.key thing) right) := by
  cases respelled with
  | refl =>
      cases lookup? (vocabulary.key thing) left with
      | none => exact .none
      | some found => exact .some (reflexive found)
  | mapping isMapping otherIsMapping rearranged =>
      rw [vocabulary.lookup?_eq_bind, vocabulary.lookup?_eq_bind, isMapping,
        otherIsMapping]
      exact rearranged.first?_rel vocabulary (apart _ isMapping) thing

theorem lookup?_eq_of_respelled {α : Type} [DecidableEq α]
    (vocabulary : Vocabulary α) (respelled : Respelled Eq left right)
    (apart : KeysApart left) (thing : α) :
    lookup? (vocabulary.key thing) left = lookup? (vocabulary.key thing) right := by
  have related := lookup?_rel vocabulary (fun _ => rfl) respelled apart thing
  generalize lookup? (vocabulary.key thing) left = found at related ⊢
  generalize lookup? (vocabulary.key thing) right = other at related ⊢
  cases related with
  | none => rfl
  | some sameValue => rw [sameValue]

theorem reviewCard_of_respelled (respelled : Respelled Eq left right)
    (apart : KeysApart left) (suit : Suit) (rank : Rank) :
    reviewCard suit left rank = reviewCard suit right rank := by
  unfold reviewCard
  rw [show lookup? rank.key left = lookup? rank.key right from
    lookup?_eq_of_respelled ranks respelled apart rank]

theorem unknownRanks_of_respelled (respelled : Respelled Eq left right)
    (suit : Suit) : unknownRanks suit left = [] ↔ unknownRanks suit right = [] := by
  cases respelled with
  | refl => exact Iff.rfl
  | mapping isMapping otherIsMapping rearranged =>
      rw [unknownRanks_eq_nil_iff isMapping, unknownRanks_eq_nil_iff otherIsMapping]
      exact rearranged.all_named_iff ranks

/-- Where the keys of a catalog stand apart, so do those of what is written for
a suit. -/
theorem KeysApartWithin.of_lookup? (apart : KeysApartWithin left) {suit : Suit}
    {found : Yaml.Value} (looked : lookup? suit.key left = some found) :
    KeysApart found := by
  obtain ⟨entries, entry, isMapping, first, rfl⟩ :=
    suits.lookup?_eq_some_iff.mp looked
  exact apart.2 entries isMapping entry (suits.first?_eq_some first).1

variable (respelled : Respelled (Respelled Eq) left right)
  (apart : KeysApartWithin left)

include respelled apart

theorem suit_rel (suit : Suit) :
    Option.Rel (Respelled Eq) (lookup? suit.key left) (lookup? suit.key right) :=
  lookup?_rel suits Respelled.refl respelled apart.1 suit

theorem authored?_of_respelled (card : Card) :
    authored? left card = authored? right card := by
  have related := suit_rel respelled apart card.suit
  have within : ∀ found, lookup? card.suit.key left = some found →
      KeysApart found := fun _ => apart.of_lookup?
  unfold authored?
  generalize lookup? card.suit.key left = found at related within ⊢
  generalize lookup? card.suit.key right = other at related ⊢
  cases related with
  | none => rfl
  | some sameRanks =>
      exact lookup?_eq_of_respelled ranks sameRanks (within _ rfl) card.rank

theorem reviewSuit_of_respelled (suit : Suit) :
    (reviewSuit left suit).problems = [] ↔ (reviewSuit right suit).problems = [] := by
  have related := suit_rel respelled apart suit
  have within : ∀ found, lookup? suit.key left = some found →
      KeysApart found := fun _ => apart.of_lookup?
  rw [reviewSuit_eq_nil_iff, reviewSuit_eq_nil_iff]
  generalize lookup? suit.key left = found at related within ⊢
  generalize lookup? suit.key right = other at related ⊢
  cases related with
  | none => simp
  | some sameRanks =>
      simp only [Option.some.injEq, exists_eq_left',
        unknownRanks_of_respelled sameRanks,
        reviewCard_of_respelled sameRanks (within _ rfl)]

end Reviews

/-- A catalog whose keys stand apart has the same prompts however its mappings
are ordered and its keys spelled, and problems just when the other has. -/
theorem checkCatalog_respelled {left right : Yaml.Value}
    (respelled : Respelled (Respelled Eq) left right)
    (apart : KeysApartWithin left) :
    (checkCatalog left).1 = (checkCatalog right).1 ∧
      ((checkCatalog left).2 = [] ↔ (checkCatalog right).2 = []) := by
  constructor
  · apply Catalog.ext
    intro card
    rw [prompt?_checkCatalog_eq, prompt?_checkCatalog_eq,
      authored?_of_respelled respelled apart]
  · have reviews := reviewSuit_of_respelled respelled apart
    rw [checkCatalog_eq_nil_iff, checkCatalog_eq_nil_iff]
    simp only [reviews]
    cases respelled with
    | refl => exact Iff.rfl
    | mapping isMapping otherIsMapping rearranged =>
        simp only [isMapping, otherIsMapping, Option.some.injEq, exists_eq_left',
          unknownSuits_eq_nil_iff, rearranged.all_named_iff suits]

/-- The entries of the plain suit from the last to the first, with blanks around
the keys and the ten written as a number. -/
def respelledSuit : List Entry :=
  Rank.all.reverse.map fun rank =>
    (if rank = .ten then .int 10 else .string (" " ++ rank.key ++ "\t"),
      plainCard "written")

/-- The same entries for every suit, from the last to the first, with small
letters in the keys. -/
def respelledCatalog : List Entry :=
  Suit.all.reverse.map fun suit =>
    (.string (suit.key ++ " "), .mapping respelledSuit)

theorem rearranged_map {α : Type} {same : Yaml.Value → Yaml.Value → Prop}
    {things : List α} {entry other : α → Entry}
    (pairs : ∀ thing ∈ things, folded? (entry thing).1 = folded? (other thing).1 ∧
      same (entry thing).2 (other thing).2) :
    Rearranged same (things.map entry) (things.reverse.map other) := by
  refine ⟨things.reverse.map entry, ?_, ?_⟩
  · exact (List.reverse_perm things).symm.map entry
  · rw [List.forall₂_map_left_iff, List.forall₂_map_right_iff, List.forall₂_same]
    intro thing member
    exact pairs thing (List.mem_reverse.mp member)

theorem checkCatalog_respelled_plain :
    let plain : Yaml.Value := .mapping (plainCatalog plainSuit)
    let respelled : Yaml.Value := .mapping respelledCatalog
    Respelled (Respelled Eq) plain respelled ∧ KeysApartWithin plain ∧
      (checkCatalog plain).1 = (checkCatalog respelled).1 ∧
        ((checkCatalog plain).2 = [] ↔ (checkCatalog respelled).2 = []) := by
  intro plain respelled
  have suitRespelled : Respelled Eq (.mapping plainSuit) (.mapping respelledSuit) := by
    apply Respelled.mapping rfl rfl
    apply rearranged_map
    intro rank member
    refine ⟨?_, rfl⟩
    revert rank
    decide +kernel
  have catalogRespelled : Respelled (Respelled Eq) plain respelled := by
    apply Respelled.mapping rfl rfl
    apply rearranged_map
    intro suit member
    refine ⟨?_, suitRespelled⟩
    revert suit
    decide +kernel
  have apart : KeysApartWithin plain := by
    constructor
    · rintro entries ⟨⟩
      decide +kernel
    · rintro entries ⟨⟩ entry member written isMapping
      obtain ⟨suit, -, rfl⟩ := List.mem_map.mp member
      cases isMapping
      decide +kernel
  exact ⟨catalogRespelled, apart, checkCatalog_respelled catalogRespelled apart⟩

end Authoring

end SoloJournal
