import SoloJournal.Proofs.Authored
import SoloJournal.Proofs.Loading
import SoloJournal.Proofs.Progress
import SoloJournal.Terminal.Program

/-!
# What validation says about loading

Validation and loading read the rulebook and the catalog in the same way, but
only loading opens the introduction.  So a directory is loaded just when
validation has nothing to report and the introduction, if there is one, can be
read; and an error of loading holds what validation reports about its document.
-/

namespace SoloJournal

namespace Authoring

variable {tree : FileTree} {dir path : String} {error : LoadError}

/-- An introduction is absent, or it can be read. -/
def StoryReadable (tree : FileTree) (dir : String) : Prop :=
  let path := FilePath.ofText (FilePath.joinText dir storyFile)
  tree.exists? path = true → ∃ text, tree.readText path = .ok text

/-! ## The parts of a game -/

/-- How a part of a game is refused: its document has no value, or the value has
problems, and these are what is reported about the document. -/
inductive PartRefused {Problem : Type} (tree : FileTree) (path : String)
    (malformed : String → List Problem → LoadError)
    (report : Problem → GameProblem) (reported : List GameProblem) :
    LoadError → Prop where
  | document {error : DocumentError}
      (unread : readDocument tree path = .error error) :
      PartRefused tree path malformed report reported (.document error)
  | content {value : Yaml.Value} {problems : List Problem}
      (read : readDocument tree path = .ok value) (some : problems ≠ [])
      (same : reported = problems.map report) :
      PartRefused tree path malformed report reported (malformed path problems)

abbrev RulebookRefused (tree : FileTree) (dir : String) : LoadError → Prop :=
  PartRefused tree (FilePath.joinText dir rulebookFile) .malformedRulebook
    .rulebook (rulebookProblems tree dir)

abbrev CatalogRefused (tree : FileTree) (dir : String) : LoadError → Prop :=
  PartRefused tree (FilePath.joinText dir catalogFile) .malformedCatalog
    .catalog (catalogProblems tree dir)

/-- A rulebook that is not accepted has a problem. -/
theorem checkRulebook_ne_error_nil {value : Yaml.Value} :
    checkRulebook value ≠ .error [] := by
  intro refused
  unfold checkRulebook at refused
  simp only [checked_eq_error, bind_eq_error, mapError_eq_error] at refused
  rcases refused with ⟨-, none⟩ | ⟨-, ⟨found, none⟩ | ⟨-, mistyped | numbers⟩⟩
  · cases none
  · rw [none] at found
    cases found
  · obtain ⟨mismatch, -, none⟩ := mistyped
    cases none
  · obtain ⟨rules, -, ⟨found, none⟩ | ⟨-, accepted⟩⟩ := numbers
    · rw [none] at found
      cases found
    · cases accepted

theorem loadRulebook_eq_error_iff :
    loadRulebook tree dir = .error error ↔ RulebookRefused tree dir error := by
  simp only [loadRulebook, bind_eq_error, mapError_eq_error, mapError_eq_ok]
  constructor
  · rintro (⟨unread, failed, rfl⟩ | ⟨value, read, problems, refused, rfl⟩)
    · exact .document failed
    · apply PartRefused.content read
      · rintro rfl
        exact checkRulebook_ne_error_nil refused
      · unfold rulebookProblems
        rw [read]
        simp only [refused]
  · rintro (⟨failed⟩ | ⟨read, some, same⟩)
    · exact .inl ⟨_, failed, rfl⟩
    · refine .inr ⟨_, read, _, ?_, rfl⟩
      unfold rulebookProblems at same
      rw [read] at same
      dsimp only at same
      split at same
      case h_1 => exact absurd (List.map_eq_nil_iff.mp same.symm) some
      case h_2 refused =>
        rw [refused, List.map_injective_iff.mpr (fun _ _ => GameProblem.rulebook.inj) same]

theorem loadCatalog_eq_error_iff :
    loadCatalog tree dir = .error error ↔ CatalogRefused tree dir error := by
  simp only [loadCatalog, bind_eq_error, mapError_eq_error, mapError_eq_ok]
  constructor
  · rintro (⟨unread, failed, rfl⟩ | ⟨value, read, refused⟩)
    · exact .document failed
    · split at refused
      case isTrue => cases refused
      case isFalse flawed =>
        cases refused
        apply PartRefused.content read
        · -- the test for gaps never fails by itself
          intro flawless
          rw [isComplete_of_flawless flawless, flawless] at flawed
          exact flawed rfl
        · unfold catalogProblems
          rw [read]
  · rintro (⟨failed⟩ | ⟨read, some, same⟩)
    · exact .inl ⟨_, failed, rfl⟩
    · refine .inr ⟨_, read, ?_⟩
      unfold catalogProblems at same
      rw [read] at same
      have found := List.map_injective_iff.mpr (fun _ _ => GameProblem.catalog.inj) same
      simp [found, some, throw, throwThe, MonadExceptOf.throw]

theorem rulebookProblems_eq_nil_iff :
    rulebookProblems tree dir = [] ↔ ∃ rules, loadRulebook tree dir = .ok rules := by
  simp only [loadRulebook_eq_ok_iff]
  unfold rulebookProblems
  cases read : readDocument tree (FilePath.joinText dir rulebookFile) with
  | error error => simp
  | ok value =>
      cases checked : checkRulebook value with
      | ok rules => simp [checked]
      | error problems =>
          have some : problems ≠ [] := by
            rintro rfl
            exact checkRulebook_ne_error_nil checked
          simp [checked, some]

theorem catalogProblems_eq_nil_iff :
    catalogProblems tree dir = [] ↔
      ∃ catalog, loadCatalog tree dir = .ok catalog := by
  simp only [loadCatalog_eq_ok_iff]
  unfold catalogProblems
  cases read : readDocument tree (FilePath.joinText dir catalogFile) with
  | error error => simp
  | ok value =>
      simp only [List.map_eq_nil_iff]
      constructor
      · intro flawless
        exact ⟨_, value, rfl, Prod.ext rfl flawless, isComplete_of_flawless flawless⟩
      · rintro ⟨catalog, _, ⟨⟩, checked, -⟩
        rw [checked]

theorem loadStory_eq_error_iff :
    loadStory tree dir = .error error ↔
      let path := FilePath.joinText dir storyFile
      tree.exists? (.ofText path) = true ∧
        ∃ failed, tree.readText (.ofText path) = .error failed ∧
          error = .document (.unreadable path failed) := by
  unfold loadStory
  dsimp only
  split
  case isTrue present =>
    simp only [bind_eq_error, mapError_eq_error, present, true_and]
    constructor
    · rintro (⟨failed, unread, rfl⟩ | ⟨text, -, ⟨⟩⟩)
      exact ⟨failed, unread, rfl⟩
    · rintro ⟨failed, unread, rfl⟩
      exact .inl ⟨failed, unread, rfl⟩
  case isFalse absent => simp [absent, pure, Except.pure]

theorem storyReadable_iff :
    StoryReadable tree dir ↔ ∃ story, loadStory tree dir = .ok story := by
  unfold StoryReadable loadStory
  dsimp only
  split
  case isTrue present =>
    simp [bind_eq_ok, mapError_eq_ok, present, pure, Except.pure]
  case isFalse absent => simp [absent, pure, Except.pure]

/-! ## Games -/

theorem validateGame_eq_nil_iff :
    validateGame tree dir = [] ↔
      rulebookProblems tree dir = [] ∧ catalogProblems tree dir = [] :=
  List.append_eq_nil_iff

theorem loads_iff :
    (∃ loaded, loadGame tree dir = .ok loaded) ↔
      validateGame tree dir = [] ∧ StoryReadable tree dir := by
  rw [validateGame_eq_nil_iff, rulebookProblems_eq_nil_iff,
    catalogProblems_eq_nil_iff, storyReadable_iff]
  simp only [loadGame, bind_eq_ok]
  constructor
  · rintro ⟨loaded, rules, rulesLoaded, catalog, catalogLoaded, story, storyLoaded, -⟩
    exact ⟨⟨⟨rules, rulesLoaded⟩, catalog, catalogLoaded⟩, story, storyLoaded⟩
  · rintro ⟨⟨⟨rules, rulesLoaded⟩, catalog, catalogLoaded⟩, story, storyLoaded⟩
    exact ⟨_, rules, rulesLoaded, catalog, catalogLoaded, story, storyLoaded, rfl⟩

/-- Why a game is not loaded.  The rulebook comes first, then the catalog; the
introduction is opened only when validation has nothing to report. -/
inductive Refused (tree : FileTree) (dir : String) : LoadError → Prop where
  | rulebook {error : LoadError} (refused : RulebookRefused tree dir error) :
      Refused tree dir error
  | catalog {error : LoadError} (sound : rulebookProblems tree dir = [])
      (refused : CatalogRefused tree dir error) : Refused tree dir error
  | story {failed : FileError} (valid : validateGame tree dir = [])
      (present :
        tree.exists? (.ofText (FilePath.joinText dir storyFile)) = true)
      (unread :
        tree.readText (.ofText (FilePath.joinText dir storyFile)) = .error failed) :
      Refused tree dir
        (.document (.unreadable (FilePath.joinText dir storyFile) failed))

theorem loadGame_eq_error_iff :
    loadGame tree dir = .error error ↔ Refused tree dir error := by
  simp only [loadGame, bind_eq_error]
  constructor
  · rintro (refused | ⟨rules, rulesLoaded, later⟩)
    · exact .rulebook (loadRulebook_eq_error_iff.mp refused)
    have sound := rulebookProblems_eq_nil_iff.mpr ⟨rules, rulesLoaded⟩
    rcases later with refused | ⟨catalog, catalogLoaded, later⟩
    · exact .catalog sound (loadCatalog_eq_error_iff.mp refused)
    have complete := catalogProblems_eq_nil_iff.mpr ⟨catalog, catalogLoaded⟩
    rcases later with refused | ⟨story, -, ⟨⟩⟩
    obtain ⟨present, failed, unread, rfl⟩ := loadStory_eq_error_iff.mp refused
    exact .story (validateGame_eq_nil_iff.mpr ⟨sound, complete⟩) present unread
  · rintro (refused | ⟨sound, refused⟩ | ⟨valid, present, unread⟩)
    · exact .inl (loadRulebook_eq_error_iff.mpr refused)
    · obtain ⟨rules, rulesLoaded⟩ := rulebookProblems_eq_nil_iff.mp sound
      exact .inr ⟨rules, rulesLoaded, .inl (loadCatalog_eq_error_iff.mpr refused)⟩
    · obtain ⟨sound, complete⟩ := validateGame_eq_nil_iff.mp valid
      obtain ⟨rules, rulesLoaded⟩ := rulebookProblems_eq_nil_iff.mp sound
      obtain ⟨catalog, catalogLoaded⟩ := catalogProblems_eq_nil_iff.mp complete
      refine .inr ⟨rules, rulesLoaded, .inr ⟨catalog, catalogLoaded, .inl ?_⟩⟩
      exact loadStory_eq_error_iff.mpr ⟨present, _, unread, rfl⟩

end Authoring

namespace Terminal

open Authoring

variable {tree : FileTree} {around : Surroundings} {style : Style}

/-- Whether a game that was to be played has been found and loaded. -/
def Beginning.PastLoading : Beginning → Prop
  | .done _ (.error (.noGameDir _)) _ => False
  | .done _ (.error (.notDirectory _)) _ => False
  | .done _ (.error (.notLoadedFrom _ _)) _ => False
  | _ => True

/-- Validation ends with exit code 0 and says that the game can be played. -/
def SaysReady (around : Surroundings) (style : Style) (dir : String) : Prop :=
  ∃ lines, begin around style (.validate dir) = .done lines (.ok 0) around.tree ∧
    "Game configuration is valid and ready to play!" ∈ lines

theorem checkDir_eq_error {dir : String} {error : ProgramError}
    (stopped : checkDir tree dir = .error error) :
    error = .noGameDir dir ∨ error = .notDirectory dir := by
  unfold checkDir at stopped
  dsimp only at stopped
  split at stopped
  · exact .inl (Except.error.inj stopped).symm
  · split at stopped
    · exact .inr (Except.error.inj stopped).symm
    · cases stopped

theorem begin_validate {dir : String} :
    begin around style (.validate dir) =
      match checkDir around.tree dir with
      | .ok () =>
        let (lines, code) := validateTask around.tree style dir
        .done lines (.ok code) around.tree
      | .error error => .done [] (.error error) around.tree :=
  rfl

theorem begin_play {options : PlayOptions} :
    begin around style (.play options) =
      match checkDir around.tree options.gameDir with
      | .ok () => beginPlay around style options
      | .error error => .done [] (.error error) around.tree :=
  rfl

theorem exitsWithZero_iff {dir : String} :
    (∃ lines after, begin around style (.validate dir) = .done lines (.ok 0) after) ↔
      checkDir around.tree dir = .ok () ∧ validateGame around.tree dir = [] := by
  cases found : checkDir around.tree dir with
  | error error => simp [begin_validate, found]
  | ok found' =>
      simp only [begin_validate, found]
      by_cases valid : validateGame around.tree dir = []
      · simp [validateTask, valid]
      · simp [validateTask, valid]

theorem saysReady_iff {dir : String} :
    SaysReady around style dir ↔
      checkDir around.tree dir = .ok () ∧ validateGame around.tree dir = [] := by
  constructor
  · rintro ⟨lines, ended, -⟩
    exact exitsWithZero_iff.mp ⟨lines, _, ended⟩
  · rintro ⟨found, valid⟩
    unfold SaysReady
    simp [begin_validate, found, valid, validateTask, problemLines]

theorem pastLoading_openTable {game : LoadedGame} {path : String}
    {slot : FileSlot} {source : Seeded} :
    (openTable style game path slot source).PastLoading := by
  unfold openTable
  dsimp only
  split
  case h_1 error refused =>
    unfold openingError
    split <;> exact True.intro
  case h_2 => exact True.intro

theorem pastLoading_beginPlay_iff {options : PlayOptions} :
    (beginPlay around style options).PastLoading ↔
      ∃ loaded, loadGame around.tree options.gameDir = .ok loaded := by
  unfold beginPlay
  cases loads : loadGame around.tree options.gameDir with
  | error error => simp [Beginning.PastLoading]
  | ok loaded =>
      simp only [Except.ok.injEq, exists_eq', iff_true]
      cases savePath? around options with
      | none => exact True.intro
      | some path =>
          dsimp only
          rcases prepareSlot around.tree path options.fresh with ⟨error | emptied, slot⟩
          · exact True.intro
          · exact pastLoading_openTable

theorem pastLoading_iff {options : PlayOptions} :
    (begin around style (.play options)).PastLoading ↔
      checkDir around.tree options.gameDir = .ok () ∧
        ∃ loaded, loadGame around.tree options.gameDir = .ok loaded := by
  cases found : checkDir around.tree options.gameDir with
  | error error =>
      rcases checkDir_eq_error found with rfl | rfl <;>
        simp [begin_play, found, Beginning.PastLoading]
  | ok found' => simp [begin_play, found, pastLoading_beginPlay_iff]

/-- A game is loaded just when validation has nothing to report and the
introduction, if there is one, can be read.  When it is not loaded, its error
is that of the first document with a problem and holds what validation reports
about it.  So validation says that a game can be played just when playing it
gets past loading or only stops at the introduction. -/
theorem loaded_iff_valid (tree : FileTree) (dir : String) :
    ((∃ loaded, loadGame tree dir = .ok loaded) ↔
        validateGame tree dir = [] ∧ StoryReadable tree dir) ∧
      (∀ error, loadGame tree dir = .error error ↔ Refused tree dir error) ∧
      ∀ (around : Surroundings) (style : Style) (options : PlayOptions),
        ((begin around style (.play options)).PastLoading ↔
            SaysReady around style options.gameDir ∧
              StoryReadable around.tree options.gameDir) ∧
          ((∃ lines after, begin around style (.validate options.gameDir) =
              .done lines (.ok 0) after) ↔
            SaysReady around style options.gameDir) := by
  refine ⟨loads_iff, fun error => loadGame_eq_error_iff, ?_⟩
  intro around style options
  constructor
  · rw [pastLoading_iff, loads_iff, saysReady_iff, and_assoc]
  · rw [exitsWithZero_iff, saysReady_iff]

/-- The small directory with a directory where its introduction should be. -/
def closedStory : FileTree where
  nodes := smallTree.nodes ++ [(["game", "story.md"], .directory)]

/-- An introduction that cannot be read keeps a game from being loaded, and
validation does not see it. -/
theorem valid_not_loaded :
    validateGame closedStory "game" = [] ∧
      loadGame closedStory "game" =
        .error (.document (.unreadable "game/story.md" .isDirectory)) := by
  have valid : validateGame closedStory "game" = [] := by
    decide +kernel
  have path : FilePath.joinText "game" storyFile = "game/story.md" := by
    decide +kernel
  refine ⟨valid, loadGame_eq_error_iff.mpr ?_⟩
  rw [← path]
  exact .story valid (by decide +kernel) (by decide +kernel)

end Terminal

end SoloJournal
