import Mathlib.Data.List.Nodup
import SoloJournal.Authoring.CatalogCheck

/-!
# The names that keys spell

Keys are read up to letter case and blanks, so that different keys can spell the
same name.  A key spells at most one name of a vocabulary, and looking a name up
gives the first entry whose key spells it.
-/

namespace SoloJournal

section Lists

variable {α β : Type}

/-- Where only one item can pass a test, it is the one that is found. -/
theorem find?_eq_some_of_unique {test : α → Bool} {items : List α} {item : α}
    (member : item ∈ items) (passes : test item = true)
    (unique : ∀ other ∈ items, test other = true → other = item) :
    items.find? test = some item := by
  cases found : items.find? test with
  | none =>
      have fails := List.find?_eq_none.mp found item member
      exact absurd passes fails
  | some other =>
      have same := unique other (List.mem_of_find?_eq_some found)
        (List.find?_some found)
      rw [same]

/-- Where no two items have the same value, every item is found by its own. -/
theorem find?_of_nodup_map [DecidableEq β] {value : α → β} {items : List α}
    {item : α} (nodup : (items.map value).Nodup) (member : item ∈ items) :
    items.find? (fun other => value other = value item) = some item := by
  apply find?_eq_some_of_unique member
  · simp
  · intro other otherMember same
    exact List.inj_on_of_nodup_map nodup otherMember member
      (of_decide_eq_true same)

/-- A lookup finds the only value that stands beside its key. -/
theorem lookup_eq_some_of_unique [DecidableEq α] {entries : List (α × β)}
    {key : α} {value : β} (member : (key, value) ∈ entries)
    (unique : ∀ other, (key, other) ∈ entries → other = value) :
    entries.lookup key = some value := by
  cases found : entries.lookup key with
  | none =>
      have fails := List.lookup_eq_none_iff.mp found (key, value) member
      simp at fails
  | some other =>
      obtain ⟨front, back, same, -⟩ := List.lookup_eq_some_iff.mp found
      have otherMember : (key, other) ∈ entries := by
        rw [same]
        simp
      rw [unique other otherMember]

end Lists

namespace Authoring

/-- An entry of a mapping: its key and its value. -/
abbrev Entry := Yaml.Value × Yaml.Value

/-- Names for all things of a kind, which differ even without regard to letter
case. -/
structure Vocabulary (α : Type) where
  all : List α
  key : α → String
  mem_all : ∀ thing, thing ∈ all
  nodup_key : (all.map fun thing => Text.foldCase (key thing).toList).Nodup

namespace Vocabulary

def suits : Vocabulary Suit where
  all := Suit.all
  key := Suit.key
  mem_all := Suit.mem_all
  nodup_key := by decide

def ranks : Vocabulary Rank where
  all := Rank.all
  key := Rank.key
  mem_all := Rank.mem_all
  nodup_key := by decide

variable {α : Type}

/-- What the key of an entry spells. -/
def named? (vocabulary : Vocabulary α) (entry : Entry) : Option α :=
  (keyText? entry.1).bind fun text =>
    vocabulary.all.find? fun thing =>
      Text.sameIgnoringCase (vocabulary.key thing) (Text.trim text)

theorem named?_suits (entry : Entry) :
    suits.named? entry = (keyText? entry.1).bind Suit.ofKey? :=
  rfl

theorem named?_ranks (entry : Entry) :
    ranks.named? entry = (keyText? entry.1).bind Rank.ofKey? :=
  rfl

theorem nodup_all (vocabulary : Vocabulary α) : vocabulary.all.Nodup :=
  vocabulary.nodup_key.of_map

/-- Among all things only the one whose key a text is, without regard to case,
is found by it. -/
theorem find?_same_iff (vocabulary : Vocabulary α) {text : String} {thing : α} :
    vocabulary.all.find?
          (fun thing => Text.sameIgnoringCase (vocabulary.key thing) text) =
        some thing ↔
      Text.sameIgnoringCase text (vocabulary.key thing) = true := by
  simp only [Text.sameIgnoringCase, beq_iff_eq]
  constructor
  · intro found
    have same := List.find?_some found
    exact (beq_iff_eq.mp same).symm
  · intro same
    have member := vocabulary.mem_all thing
    apply find?_eq_some_of_unique member
    · exact beq_iff_eq.mpr same.symm
    · intro other otherMember otherSame
      apply List.inj_on_of_nodup_map vocabulary.nodup_key otherMember member
      exact (beq_iff_eq.mp otherSame).trans same

theorem named?_eq_some_iff (vocabulary : Vocabulary α) {entry : Entry}
    {thing : α} :
    vocabulary.named? entry = some thing ↔
      spells (vocabulary.key thing) entry.1 = true := by
  unfold named? spells
  cases keyText? entry.1 with
  | none => simp
  | some text =>
      rw [Option.bind_some, Option.any_some]
      exact vocabulary.find?_same_iff

/-- Every entry is named, every name is spelled, and none is spelled twice. -/
def NamesEachOnce (vocabulary : Vocabulary α) (entries : List Entry) : Prop :=
  (entries.map vocabulary.named?).Perm (vocabulary.all.map some)

theorem nodup_all_some (vocabulary : Vocabulary α) :
    (vocabulary.all.map some).Nodup :=
  vocabulary.nodup_all.map fun _ _ same => Option.some.inj same

theorem nodup_of_namesEachOnce (vocabulary : Vocabulary α)
    {entries : List Entry} (once : vocabulary.NamesEachOnce entries) :
    (entries.map vocabulary.named?).Nodup :=
  once.nodup_iff.mpr vocabulary.nodup_all_some

variable [DecidableEq α]

/-- The first entry whose key spells a name. -/
def first? (vocabulary : Vocabulary α) (thing : α) (entries : List Entry) :
    Option Entry :=
  entries.find? fun entry => vocabulary.named? entry = some thing

theorem first?_eq_some (vocabulary : Vocabulary α) {thing : α}
    {entries : List Entry} {entry : Entry}
    (first : vocabulary.first? thing entries = some entry) :
    entry ∈ entries ∧ vocabulary.named? entry = some thing := by
  unfold first? at first
  constructor
  · exact List.mem_of_find?_eq_some first
  · simpa using List.find?_some first

/-- Looking a name up gives the first entry whose key spells it. -/
theorem lookup?_eq_some_iff (vocabulary : Vocabulary α) {thing : α}
    {value found : Yaml.Value} :
    lookup? (vocabulary.key thing) value = some found ↔
      ∃ entries entry, value.entries? = some entries ∧
        vocabulary.first? thing entries = some entry ∧ entry.2 = found := by
  have same : (fun entry : Entry => spells (vocabulary.key thing) entry.1) =
      fun entry => decide (vocabulary.named? entry = some thing) := by
    funext entry
    rw [Bool.eq_iff_iff, decide_eq_true_iff]
    exact vocabulary.named?_eq_some_iff.symm
  simp only [lookup?, Option.bind_eq_bind, Option.bind_eq_some_iff, same,
    first?]
  constructor
  · rintro ⟨entries, isMapping, entry, first, ⟨⟩⟩
    exact ⟨entries, entry, isMapping, first, rfl⟩
  · rintro ⟨entries, entry, isMapping, first, rfl⟩
    exact ⟨entries, isMapping, entry, first, rfl⟩

theorem lookup?_eq_bind (vocabulary : Vocabulary α) (thing : α)
    (value : Yaml.Value) :
    lookup? (vocabulary.key thing) value =
      value.entries?.bind fun entries =>
        (vocabulary.first? thing entries).map Prod.snd := by
  apply Option.ext
  intro found
  rw [vocabulary.lookup?_eq_some_iff]
  simp only [Option.bind_eq_some_iff, Option.map_eq_some_iff]
  constructor
  · rintro ⟨entries, entry, isMapping, first⟩
    exact ⟨entries, isMapping, entry, first⟩
  · rintro ⟨entries, isMapping, entry, first⟩
    exact ⟨entries, entry, isMapping, first⟩

theorem lookup?_eq_none_iff (vocabulary : Vocabulary α) {thing : α}
    {value : Yaml.Value} :
    lookup? (vocabulary.key thing) value = none ↔
      ∀ entries, value.entries? = some entries →
        vocabulary.first? thing entries = none := by
  rw [lookup?_eq_bind, Option.bind_eq_none_iff]
  simp only [Option.map_eq_none_iff]

/-- Where no name is spelled twice, every entry is the first with its name. -/
theorem first?_of_nodup (vocabulary : Vocabulary α) {thing : α}
    {entries : List Entry} {entry : Entry}
    (nodup : (entries.map vocabulary.named?).Nodup) (member : entry ∈ entries)
    (named : vocabulary.named? entry = some thing) :
    vocabulary.first? thing entries = some entry := by
  rw [first?, ← named]
  exact find?_of_nodup_map nodup member

/-- When every entry is named and every name has an entry, each name is spelled
once just when none is spelled twice. -/
theorem namesEachOnce_iff (vocabulary : Vocabulary α) {entries : List Entry}
    (known : ∀ entry ∈ entries, (vocabulary.named? entry).isSome)
    (given : ∀ thing, (vocabulary.first? thing entries).isSome) :
    vocabulary.NamesEachOnce entries ↔
      (entries.map vocabulary.named?).Nodup := by
  constructor
  · exact vocabulary.nodup_of_namesEachOnce
  · intro nodup
    apply (List.perm_ext_iff_of_nodup nodup vocabulary.nodup_all_some).mpr
    intro name
    cases name with
    | none =>
        have unnamed : none ∉ entries.map vocabulary.named? := by
          intro member
          obtain ⟨entry, entryMember, none⟩ := List.mem_map.mp member
          have isNamed := known entry entryMember
          rw [none] at isNamed
          cases isNamed
        simp [unnamed]
    | some thing =>
        obtain ⟨entry, first⟩ := Option.isSome_iff_exists.mp (given thing)
        obtain ⟨member, named⟩ := vocabulary.first?_eq_some first
        constructor
        · intro _
          exact List.mem_map_of_mem (vocabulary.mem_all thing)
        · intro _
          exact List.mem_map.mpr ⟨entry, member, named⟩

end Vocabulary

end Authoring

end SoloJournal
