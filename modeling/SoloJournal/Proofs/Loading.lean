import SoloJournal.Authoring.GameDir
import SoloJournal.Proofs.Standing
import SoloJournal.Proofs.Steps

/-!
# What loading guarantees

A directory is loaded only when its rulebook makes a playable game and its
catalog has a prompt for every card.  Whoever plays a loaded game can rely on
both.
-/

namespace SoloJournal

theorem Catalog.isComplete_iff {catalog : Catalog} :
    catalog.isComplete = true ↔ ∀ card, (catalog.prompt? card).isSome := by
  simp [isComplete, missing, Option.isSome_iff_ne_none]

namespace Authoring

theorem numberProblems_eq_nil_iff {rules : Rulebook} :
    numberProblems rules = [] ↔
      rules.thresholds.critical < rules.thresholds.danger ∧
        0 < rules.mechanics.tokens.initial ∧
        0 < rules.mechanics.stability.initial := by
  simp [numberProblems, UInt32.pos_iff_ne_zero]

theorem checkRulebook_eq_ok_iff {value : Yaml.Value} {rules : Rulebook} :
    checkRulebook value = .ok rules ↔
      value.isMapping = true ∧ missingParts value = [] ∧
        readRulebook value = .ok rules ∧ numberProblems rules = [] := by
  unfold checkRulebook
  simp only [checked_eq_ok, bind_eq_ok, mapError_eq_ok,
    List.isEmpty_iff]
  constructor
  · rintro ⟨isMapping, complete, _, typed, playable, ⟨⟩⟩
    exact ⟨isMapping, complete, typed, playable⟩
  · rintro ⟨isMapping, complete, typed, playable⟩
    exact ⟨isMapping, complete, rules, typed, playable, rfl⟩

variable {tree : FileTree} {dir : String}

theorem loadRulebook_eq_ok_iff {rules : Rulebook} :
    loadRulebook tree dir = .ok rules ↔
      ∃ value,
        readDocument tree (FilePath.joinText dir rulebookFile) = .ok value ∧
          checkRulebook value = .ok rules := by
  simp only [loadRulebook, bind_eq_ok, mapError_eq_ok]

theorem loadCatalog_eq_ok_iff {catalog : Catalog} :
    loadCatalog tree dir = .ok catalog ↔
      ∃ value,
        readDocument tree (FilePath.joinText dir catalogFile) = .ok value ∧
          checkCatalog value = (catalog, []) ∧ catalog.isComplete = true := by
  simp only [loadCatalog, bind_eq_ok, mapError_eq_ok]
  constructor
  · rintro ⟨value, read, taken⟩
    refine ⟨value, read, ?_⟩
    split at taken
    case isTrue flawless =>
      cases taken
      rw [Bool.and_eq_true, List.isEmpty_iff] at flawless
      exact ⟨Prod.ext rfl flawless.1, flawless.2⟩
    case isFalse => cases taken
  · rintro ⟨value, read, checked, complete⟩
    refine ⟨value, read, ?_⟩
    rw [checked, complete]
    rfl

/-- A game is loaded as the signed content of a rulebook and a catalog that
have been checked. -/
theorem parts_of_loadGame {loaded : LoadedGame}
    (loads : loadGame tree dir = .ok loaded) :
    ∃ rules catalog,
      loadRulebook tree dir = .ok rules ∧
        loadCatalog tree dir = .ok catalog ∧
        loaded.content = .sign rules catalog := by
  obtain ⟨rules, rulesLoaded, later⟩ := bind_eq_ok.mp loads
  obtain ⟨catalog, catalogLoaded, later⟩ := bind_eq_ok.mp later
  obtain ⟨story, -, made⟩ := bind_eq_ok.mp later
  cases made
  exact ⟨rules, catalog, rulesLoaded, catalogLoaded, rfl⟩

theorem playable_of_loadGame {loaded : LoadedGame}
    (loads : loadGame tree dir = .ok loaded) : loaded.content.Playable := by
  obtain ⟨rules, catalog, rulesLoaded, -, same⟩ := parts_of_loadGame loads
  obtain ⟨value, -, checked⟩ := loadRulebook_eq_ok_iff.mp rulesLoaded
  obtain ⟨-, -, -, sound⟩ := checkRulebook_eq_ok_iff.mp checked
  obtain ⟨-, tokens, stability⟩ := numberProblems_eq_nil_iff.mp sound
  rw [same]
  exact ⟨tokens, stability⟩

theorem prompt?_of_loadGame {loaded : LoadedGame}
    (loads : loadGame tree dir = .ok loaded) (card : Card) :
    (loaded.content.catalog.prompt? card).isSome := by
  obtain ⟨rules, catalog, -, catalogLoaded, same⟩ := parts_of_loadGame loads
  obtain ⟨value, -, -, complete⟩ := loadCatalog_eq_ok_iff.mp catalogLoaded
  rw [same]
  exact Catalog.isComplete_iff.mp complete card

end Authoring

end SoloJournal
