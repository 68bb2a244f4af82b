import SoloJournal.Terminal.Table

/-!
# What a script does to a session

A game at the table changes its session by commands and by saving its journal,
and by nothing else.  `Session.Follows` says so line by line, leaving out all
that is shown, and marks what becomes of the slot on the way.
-/

namespace SoloJournal

open Terminal (Command Moments Setting Table)

/-- What a session does that matters to its slot. -/
inductive Mark where
  /-- The slot took the game. -/
  | saved
  /-- The slot refused a call. -/
  | refused
  /-- The journal was edited. -/
  | noted
  deriving DecidableEq

namespace Session

variable {σ κ : Type} [SaveSlot κ] [RandomSource σ]

/-- What a command does to a session. -/
def obey (now : Nat) (command : Command) (session : Session σ κ) :
    Outcome SessionError Unit (Session σ κ) :=
  match command with
  | .roll => session.roll.map fun _ => ()
  | .draw => session.draw.map fun _ => ()
  | .resolve => session.resolve.map fun _ => ()
  | .tokens delta => (session.adjustTokens delta).map fun _ => ()
  | .note text =>
      .accept () [] (session.edit (Table.withNote session.game.journal text) now)
  | .restart => session.restart.map fun _ => ()
  | .journal | .status | .history | .story | .help | .quit =>
      .accept () [] session

/-- The marks of an action of the session. -/
def actionMarks : Except SessionError Unit → List Mark
  | .ok () => [.saved]
  | .error (.save _) => [.refused]
  | .error (.game _) => []

/-- The marks of a command that was answered. -/
def marksOf (command : Command) (answer : Except SessionError Unit) :
    List Mark :=
  match command with
  | .roll | .draw | .resolve | .tokens _ | .restart => actionMarks answer
  | .note _ => [.noted]
  | .journal | .status | .history | .story | .help | .quit => []

/-- How a session follows a script until it ends or is quit: each line that is
a command is obeyed, and then a settled journal is saved. -/
inductive Follows :
    List (Moments × Option String) → Session σ κ → List Mark →
      Session σ κ → Prop where
  | ended {session : Session σ κ} : Follows [] session [] session
  | quit {moments : Moments} {line : String}
      {lines : List (Moments × Option String)} {session : Session σ κ} :
      Command.parse line = .ok (some .quit) →
      Follows ((moments, some line) :: lines) session [] session
  | skipped {moments : Moments} {line : String}
      {lines : List (Moments × Option String)} {session left : Session σ κ}
      {marks : List Mark} :
      (∀ command, Command.parse line ≠ .ok (some command)) →
      Follows lines session marks left →
      Follows ((moments, some line) :: lines) session marks left
  | obeyed {moments : Moments} {line : String}
      {lines : List (Moments × Option String)} {session left : Session σ κ}
      {command : Command} {written : Bool} {marks : List Mark} :
      Command.parse line = .ok (some command) →
      command ≠ .quit →
      ((session.obey moments.edit command).after.flush
        moments.flush).answer = .ok written →
      Follows lines
        ((session.obey moments.edit command).after.flush moments.flush).after
        marks left →
      Follows ((moments, some line) :: lines) session
        (marksOf command (session.obey moments.edit command).answer
          ++ (if written then [.saved] else []) ++ marks) left

end Session

namespace Terminal.Table

variable {σ κ : Type}

/-! ## Steps that only show something -/

/-- A step that leaves the session alone. -/
def Shows (step : Step σ κ) : Prop :=
  ∀ table, (step table).2.session = table.session

theorem shows_stay : Shows (stay : Step σ κ) :=
  fun _ => rfl

theorem Shows.andThen {first second : Step σ κ} (firstShows : Shows first)
    (secondShows : Shows second) : Shows (andThen first second) := by
  intro table
  have kept := firstShows table
  unfold Table.andThen
  cases shown : first table with
  | mk answer middle =>
      rw [shown] at kept
      cases answer with
      | ok done => exact (secondShows middle).trans kept
      | error error => exact kept

theorem shows_writeBytes (entry : Entry) (bytes : Nat) :
    Shows (writeBytes entry bytes : Step σ κ) := by
  intro table
  simp only [writeBytes]
  split
  · rfl
  · split <;> rfl

theorem transcript_writeBytes (entry : Entry) (bytes : Nat)
    (table : Table σ κ) :
    (writeBytes entry bytes table).2.transcript =
      entry :: table.transcript := by
  simp only [writeBytes]
  split
  · rfl
  · split <;> rfl

theorem transcript_writeLine (text : String) (table : Table σ κ) :
    (writeLines [text] table).2.transcript =
      .line text :: table.transcript := by
  have written := transcript_writeBytes (.line text) (text.utf8ByteSize + 1)
    table
  simp only [writeLines, List.map_cons, List.map_nil, writeEntries, andThen,
    writeEntry, Entry.text?]
  cases shown : writeBytes (.line text) (text.utf8ByteSize + 1) table with
  | mk answer after =>
      rw [shown] at written
      cases answer with
      | ok done => exact written
      | error error => exact written

theorem shows_writeEntry (entry : Entry) :
    Shows (writeEntry entry : Step σ κ) := by
  intro table
  unfold writeEntry
  split
  · exact shows_writeBytes entry _ table
  · exact shows_writeBytes entry _ table

theorem shows_writeEntries (entries : List Entry) :
    Shows (writeEntries entries : Step σ κ) := by
  induction entries with
  | nil => exact shows_stay
  | cons entry entries induction =>
      exact (shows_writeEntry entry).andThen induction

theorem shows_writeLines (lines : List String) :
    Shows (writeLines lines : Step σ κ) :=
  shows_writeEntries _

theorem shows_report : Shows (report : Step σ κ) :=
  fun table => shows_writeEntries _ { table with pending := [] }

theorem shows_showView (style : Style) :
    Shows (showView style : Step σ κ) :=
  fun table => shows_writeLines _ table

theorem shows_greet (setting : Setting) :
    Shows (greet setting : Step σ κ) :=
  shows_report.andThen
    ((shows_showView setting.style).andThen (shows_writeLines _))

/-! ## Steps that reach their end -/

theorem andThen_eq_ok {first second : Step σ κ} {table final : Table σ κ} :
    andThen first second table = (.ok (), final) ↔
      ∃ middle, first table = (.ok (), middle) ∧
        second middle = (.ok (), final) := by
  unfold andThen
  cases first table with
  | mk answer middle => cases answer <;> simp

theorem Shows.session_eq {step : Step σ κ} (shows : Shows step)
    {table final : Table σ κ} (shown : step table = (.ok (), final)) :
    final.session = table.session := by
  have kept := shows table
  rwa [shown] at kept

theorem session_act {α : Type} (style : Style)
    (action : Session σ κ → Outcome SessionError α (Session σ κ))
    {after : Step σ κ} (shows : Shows after) (table : Table σ κ) :
    (act style action after table).2.session =
      (action table.session).after := by
  cases answered : (action table.session).answer with
  | ok answer =>
      simp only [act, answered]
      exact shows _
  | error error =>
      simp only [act, answered]
      exact shows_writeLines _ _

theorem saveJournal_eq_ok
    {flush : Session σ κ → Outcome SessionError Bool (Session σ κ)}
    {table final : Table σ κ}
    (saved : saveJournal flush table = (.ok (), final)) :
    ∃ written, (flush table.session).answer = .ok written ∧
      final.session = (flush table.session).after := by
  unfold saveJournal at saved
  cases answer : (flush table.session).answer with
  | ok written =>
      simp only [answer] at saved
      cases saved
      exact ⟨written, rfl, rfl⟩
  | error error =>
      simp only [answer] at saved
      cases saved

variable [SaveSlot κ]

/-- Leaving saves what is unsaved of the journal, and says goodbye last. -/
theorem leave_eq_ok {setting : Setting} {leaving final : Table σ κ}
    (left : leave setting leaving = (.ok (), final)) :
    (∃ written, leaving.session.flushNow.answer = .ok written) ∧
      final.session = leaving.session.flushNow.after ∧
      final.transcript.head? =
        some (.line (setting.style.info "game saved")) := by
  obtain ⟨flushed, saved, rest⟩ := andThen_eq_ok.mp left
  obtain ⟨reported, shown, bid⟩ := andThen_eq_ok.mp rest
  obtain ⟨written, answer, after⟩ := saveJournal_eq_ok saved
  have kept := (shows_report.session_eq shown).trans after
  have last := transcript_writeLine (setting.style.info "game saved") reported
  rw [bid] at last
  exact ⟨⟨written, answer⟩,
    ((shows_writeLines _).session_eq bid).trans kept,
    last ▸ List.head?_cons⟩

variable [RandomSource σ]

theorem session_perform (setting : Setting) (now : Nat) (command : Command)
    (table : Table σ κ) :
    (perform setting now command table).2.session =
      (table.session.obey now command).after := by
  have withView : Shows (andThen report (showView setting.style) : Step σ κ) :=
    shows_report.andThen (shows_showView setting.style)
  cases command with
  | roll => exact session_act _ _ shows_report table
  | draw => exact session_act _ _ withView table
  | resolve => exact session_act _ _ withView table
  | tokens delta => exact session_act _ _ shows_stay table
  | note text => rfl
  | restart => exact session_act _ _ withView table
  | journal => exact shows_writeLines _ table
  | status => exact shows_showView _ table
  | history => exact shows_writeLines _ table
  | story => exact shows_writeLines _ table
  | help => exact shows_writeLines _ table
  | quit => rfl

theorem pass_eq_ok {setting : Setting} {moments : Moments} {command : Command}
    {table final : Table σ κ}
    (passed : pass setting moments command table = (.ok (), final)) :
    ∃ written,
      ((table.session.obey moments.edit command).after.flush
        moments.flush).answer = .ok written ∧
      final.session =
        ((table.session.obey moments.edit command).after.flush
          moments.flush).after := by
  obtain ⟨performed, obeyed, rest⟩ := andThen_eq_ok.mp passed
  obtain ⟨flushed, saved, reported⟩ := andThen_eq_ok.mp rest
  have same := session_perform setting moments.edit command table
  rw [obeyed] at same
  obtain ⟨written, answer, after⟩ := saveJournal_eq_ok saved
  rw [same] at answer after
  exact ⟨written, answer, (shows_report.session_eq reported).trans after⟩

/-! ## Lines -/

theorem takeLine_quit {setting : Setting} {moments : Moments} {line : String}
    (parsed : Command.parse line = .ok (some .quit)) (table : Table σ κ) :
    takeLine setting moments (some line) table = (.ok false, table) := by
  simp only [takeLine, Option.map_some, parsed]

/-- A line without a command is at most answered with a warning. -/
theorem takeLine_skipped {setting : Setting} {moments : Moments}
    {line : String} {goesOn : Bool} {table next : Table σ κ}
    (skipped : ∀ command, Command.parse line ≠ .ok (some command))
    (taken : takeLine setting moments (some line) table =
      (.ok goesOn, next)) :
    goesOn = true ∧ next.session = table.session := by
  cases parsed : Command.parse line with
  | ok command =>
      cases command with
      | none =>
          simp only [takeLine, Option.map_some, parsed] at taken
          cases taken
          exact ⟨rfl, rfl⟩
      | some command => exact absurd parsed (skipped command)
  | error error =>
      have same := shows_writeLines
        [setting.style.warning error.message] table
      simp only [takeLine, Option.map_some, parsed] at taken
      cases shown : writeLines [setting.style.warning error.message] table with
      | mk answer warned =>
          rw [shown] at same taken
          cases answer with
          | ok done =>
              cases taken
              exact ⟨rfl, same⟩
          | error error => cases taken

theorem takeLine_of_command {setting : Setting} {moments : Moments}
    {line : String} {command : Command}
    (parsed : Command.parse line = .ok (some command))
    (stays : command ≠ .quit) (table : Table σ κ) :
    takeLine setting moments (some line) table =
      ((pass setting moments command table).1.map (fun _ => true),
        (pass setting moments command table).2) := by
  cases command <;> simp only [takeLine, Option.map_some, parsed]
  exact absurd rfl stays

theorem takeLine_command {setting : Setting} {moments : Moments}
    {line : String} {command : Command} {goesOn : Bool}
    {table next : Table σ κ}
    (parsed : Command.parse line = .ok (some command))
    (stays : command ≠ .quit)
    (taken : takeLine setting moments (some line) table =
      (.ok goesOn, next)) :
    goesOn = true ∧ pass setting moments command table = (.ok (), next) := by
  rw [takeLine_of_command parsed stays] at taken
  cases passed : pass setting moments command table with
  | mk answer after =>
      rw [passed] at taken
      cases answer with
      | ok done =>
          cases taken
          exact ⟨rfl, rfl⟩
      | error error => cases taken

/-! ## Whole scripts -/

theorem takeLines_cons_eq_ok {setting : Setting}
    {entry : Moments × Option String} {lines : List (Moments × Option String)}
    {table final : Table σ κ}
    (taken : takeLines setting (entry :: lines) table = (.ok (), final)) :
    ∃ goesOn next, takeLine setting entry.1 entry.2 table = (.ok goesOn, next) ∧
      (if goesOn then takeLines setting lines next else leave setting next) =
        (.ok (), final) := by
  unfold takeLines at taken
  cases line : takeLine setting entry.1 entry.2 table with
  | mk answer next =>
      rw [line] at taken
      cases answer with
      | ok goesOn => cases goesOn <;> exact ⟨_, next, rfl, taken⟩
      | error error => cases taken

/-- A script that reaches its end at the table is followed by the session, up
to where it takes leave. -/
theorem takeLines_eq_ok {setting : Setting}
    {lines : List (Moments × Option String)} {table final : Table σ κ}
    (taken : takeLines setting lines table = (.ok (), final)) :
    ∃ marks, ∃ leaving : Table σ κ,
      Session.Follows lines table.session marks leaving.session ∧
        leave setting leaving = (.ok (), final) := by
  induction lines generalizing table with
  | nil => exact ⟨[], table, .ended, taken⟩
  | cons entry lines induction =>
      obtain ⟨moments, line⟩ := entry
      obtain ⟨goesOn, next, first, rest⟩ := takeLines_cons_eq_ok taken
      cases line with
      | none => cases first
      | some line =>
          by_cases skipped : ∀ command, Command.parse line ≠ .ok (some command)
          · obtain ⟨rfl, same⟩ := takeLine_skipped skipped first
            obtain ⟨marks, leaving, follows, left⟩ := induction rest
            rw [same] at follows
            exact ⟨marks, leaving, .skipped skipped follows, left⟩
          · obtain ⟨command, parsed⟩ := Classical.not_forall_not.mp skipped
            by_cases quits : command = .quit
            · subst quits
              rw [takeLine_quit parsed] at first
              cases first
              exact ⟨[], table, .quit parsed, rest⟩
            · obtain ⟨rfl, passed⟩ := takeLine_command parsed quits first
              obtain ⟨written, answer, after⟩ := pass_eq_ok passed
              obtain ⟨marks, leaving, follows, left⟩ := induction rest
              rw [after] at follows
              exact ⟨_, leaving, .obeyed parsed quits answer follows, left⟩

end Terminal.Table

end SoloJournal
