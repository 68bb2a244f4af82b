import SoloJournal.Proofs.Leaving

/-!
# Every event is told once

At a table whose screen takes everything, what was told and what is still to be
told are together all that has happened: a step only ever adds what it causes.
Since every line ends with a report, nothing is left to be told where the next
one begins.
-/

namespace SoloJournal

namespace Terminal

/-- The event of an entry that tells one. -/
def Entry.event? : Entry → Option Event
  | .event happened => some happened
  | .line _ => none

/-! ## Commands of a script -/

/-- The command of a line, if the line could be read and has one. -/
def command? (line : Option String) : Option Command :=
  match line.map Command.parse with
  | some (.ok command) => command
  | _ => none

/-- Whether none of some lines quits. -/
def Stays (lines : List (Moments × Option String)) : Prop :=
  ∀ entry ∈ lines, command? entry.2 ≠ some .quit

instance : DecidablePred Stays := fun lines =>
  List.decidableBAll
    (fun entry : Moments × Option String => command? entry.2 ≠ some .quit) lines

/-- The commands among lines, up to where one quits. -/
def commands (lines : List (Moments × Option String)) :
    List (Moments × Command) :=
  (lines.takeWhile fun entry => command? entry.2 ≠ some .quit).filterMap
    fun entry => (command? entry.2).map fun command => (entry.1, command)

variable {front back : List (Moments × Option String)} {moments : Moments}
  {line : Option String}

theorem commands_append (stays : Stays front) :
    commands (front ++ back) = commands front ++ commands back := by
  have taken := fun entry member => decide_eq_true (stays entry member)
  unfold commands
  rw [List.takeWhile_append_of_pos taken, List.filterMap_append,
    List.takeWhile_eq_self_iff.mpr taken]

theorem commands_quit (quits : command? line = some .quit) :
    commands ((moments, line) :: back) = [] := by
  simp [commands, quits]

theorem commands_skipped (skipped : command? line = none) :
    commands [(moments, line)] = [] := by
  simp [commands, skipped]

theorem commands_command {command : Command} (stays : command ≠ .quit)
    (obeyed : command? line = some command) :
    commands [(moments, line)] = [(moments, command)] := by
  simp [commands, obeyed, stays]

end Terminal

open Terminal (Command Entry Moments Setting Stays Style Table TableError command?
  commands commands_append commands_command commands_quit commands_skipped)

namespace Session

variable {σ κ : Type} [SaveSlot κ] [RandomSource σ]

/-- What a command comes to at the table: it is obeyed, and then a settled
journal is saved. -/
def heed (moments : Moments) (command : Command) (session : Session σ κ) :
    Outcome SessionError Bool (Session σ κ) :=
  let obeyed := session.obey moments.edit command
  let flushed := obeyed.after.flush moments.flush
  { flushed with events := obeyed.events ++ flushed.events }

/-- The session after commands of a script. -/
def afterScript (session : Session σ κ) :
    List (Moments × Command) → Session σ κ
  | [] => session
  | (moments, command) :: script =>
      (session.heed moments command).after.afterScript script

/-- The events that commands of a script cause, in their order. -/
def scriptEvents (session : Session σ κ) : List (Moments × Command) → List Event
  | [] => []
  | (moments, command) :: script =>
      (session.heed moments command).events
        ++ (session.heed moments command).after.scriptEvents script

theorem afterScript_append (session : Session σ κ)
    (front back : List (Moments × Command)) :
    session.afterScript (front ++ back) =
      (session.afterScript front).afterScript back := by
  induction front generalizing session with
  | nil => rfl
  | cons first front induction => exact induction _

theorem scriptEvents_append (session : Session σ κ)
    (front back : List (Moments × Command)) :
    session.scriptEvents (front ++ back) =
      session.scriptEvents front
        ++ (session.afterScript front).scriptEvents back := by
  induction front generalizing session with
  | nil => rfl
  | cons first front induction =>
      simp only [List.cons_append, scriptEvents, afterScript, induction,
        List.append_assoc]

end Session

namespace Terminal.Table

variable {σ κ : Type}

/-! ## A screen that takes everything -/

/-- A table with entries added to its transcript. -/
def wrote (entries : List Entry) (table : Table σ κ) : Table σ κ :=
  { table with transcript := entries.reverse ++ table.transcript }

theorem writeBytes_wide {table : Table σ κ} (wide : table.room = none)
    (entry : Entry) (bytes : Nat) :
    writeBytes entry bytes table = (.ok (), wrote [entry] table) := by
  simp [writeBytes, wide, wrote]

theorem writeEntries_wide {table : Table σ κ} (wide : table.room = none)
    (entries : List Entry) :
    writeEntries entries table = (.ok (), wrote entries table) := by
  induction entries generalizing table with
  | nil => rfl
  | cons entry entries induction =>
      have written : writeEntry entry table = (.ok (), wrote [entry] table) := by
        unfold writeEntry
        split <;> exact writeBytes_wide wide entry _
      have rest := induction (show (wrote [entry] table).room = none from wide)
      simp only [writeEntries, andThen, written, rest]
      simp [wrote]

/-! ## What was told -/

/-- The events that were told, in the order in which they were. -/
def told (table : Table σ κ) : List Event :=
  table.transcript.reverse.filterMap Entry.event?

/-- The events that were told, and those that are still to be told. -/
def happened (table : Table σ κ) : List Event :=
  table.told ++ table.pending

/-- How a table with a screen that takes everything goes on: what is written is
added to the transcript, and nothing happens but some events. -/
structure Tells (table : Table σ κ) (events : List Event) (next : Table σ κ) :
    Prop where
  wide : next.room = none
  happened : next.happened = table.happened ++ events
  written : table.transcript <:+ next.transcript

theorem Tells.trans {first second third : Table σ κ}
    {events later : List Event} (tells : Tells first events second)
    (tellsLater : Tells second later third) :
    Tells first (events ++ later) third where
  wide := tellsLater.wide
  happened := by
    rw [tellsLater.happened, tells.happened, List.append_assoc]
  written := tells.written.trans tellsLater.written

/-- What is written where nothing was left to be told, with what is then left,
is what happened meanwhile. -/
theorem Tells.entries {table next : Table σ κ} {events : List Event}
    (tells : Tells table events next) (settled : table.pending = []) :
    ∃ entries : List Entry,
      next.transcript = entries.reverse ++ table.transcript ∧
        entries.filterMap Entry.event? ++ next.pending = events := by
  obtain ⟨written, added⟩ := tells.written
  refine ⟨written.reverse, by rw [List.reverse_reverse, added], ?_⟩
  have all := tells.happened
  simp only [Table.happened, told, ← added, settled, List.reverse_append,
    List.filterMap_append, List.append_assoc, List.append_nil] at all
  exact List.append_cancel_left all

theorem Tells.settled {table next : Table σ κ} (tells : Tells table [] next)
    (settled : table.pending = []) : next.pending = [] := by
  obtain ⟨entries, -, nothing⟩ := tells.entries settled
  exact (List.append_eq_nil_iff.mp nothing).2

theorem Tells.told_eq {table next : Table σ κ} {events : List Event}
    (tells : Tells table events next) (settled : table.pending = [])
    (settledNext : next.pending = []) :
    next.told = table.told ++ events := by
  have all := tells.happened
  rwa [Table.happened, Table.happened, settled, settledNext, List.append_nil,
    List.append_nil] at all

theorem tells_wrote {table : Table σ κ} (wide : table.room = none)
    (lines : List String) : Tells table [] (wrote (lines.map .line) table) where
  wide := wide
  happened := by
    have untold : (lines.map Entry.line).filterMap Entry.event? = [] := by
      simp [List.filterMap_map, Function.comp_def, Entry.event?]
    simp [happened, told, wrote, untold]
  written := List.suffix_append _ _

/-- A step that only writes, on a screen that takes everything. -/
def Quiet (step : Step σ κ) : Prop :=
  ∀ table, table.room = none →
    (step table).1 = .ok () ∧ Tells table [] (step table).2

theorem quiet_stay : Quiet (stay : Step σ κ) := fun _ wide =>
  ⟨rfl, wide, (List.append_nil _).symm, List.suffix_rfl⟩

theorem quiet_writeLines (lines : List String) :
    Quiet (writeLines lines : Step σ κ) := by
  intro table wide
  rw [writeLines, writeEntries_wide wide]
  exact ⟨rfl, tells_wrote wide lines⟩

theorem quiet_showView (style : Style) : Quiet (showView style : Step σ κ) :=
  fun table => quiet_writeLines _ table

/-- A report leaves nothing to be told. -/
theorem report_wide {table : Table σ κ} (wide : table.room = none) :
    report table =
      (.ok (), wrote (table.pending.map .event) { table with pending := [] }) :=
  writeEntries_wide (by exact wide) _

theorem quiet_report : Quiet (report : Step σ κ) := by
  intro table wide
  rw [report_wide wide]
  refine ⟨rfl, wide, ?_, List.suffix_append _ _⟩
  have all : (table.pending.map Entry.event).filterMap Entry.event? =
      table.pending := by
    simp [List.filterMap_map, Function.comp_def, Entry.event?]
  simp [happened, told, wrote, all]

theorem andThen_of_ok {first : Step σ κ} {table : Table σ κ}
    (goes : (first table).1 = .ok ()) (second : Step σ κ) :
    andThen first second table = second (first table).2 := by
  unfold andThen
  cases done : first table with
  | mk answer next =>
      rw [done] at goes
      cases goes
      rfl

theorem andThen_of_error {first : Step σ κ} {table : Table σ κ}
    {error : TableError} (stops : (first table).1 = .error error)
    (second : Step σ κ) : andThen first second table = first table := by
  unfold andThen
  cases done : first table with
  | mk answer next =>
      rw [done] at stops
      cases stops
      rfl

theorem Quiet.andThen {first second : Step σ κ} (quiet : Quiet first)
    (quietSecond : Quiet second) : Quiet (andThen first second) := by
  intro table wide
  obtain ⟨goes, tells⟩ := quiet table wide
  obtain ⟨goesOn, tellsNone⟩ := quietSecond _ tells.wide
  rw [andThen_of_ok goes]
  exact ⟨goesOn, tells.trans tellsNone⟩

/-- A step that only writes, and tells all that is still to be told. -/
structure Reports (step : Step σ κ) : Prop where
  quiet : Quiet step
  shows : Shows step
  settles : ∀ table, table.room = none → (step table).2.pending = []

theorem reports_report : Reports (report : Step σ κ) where
  quiet := quiet_report
  shows := shows_report
  settles table wide := by
    rw [report_wide wide]
    rfl

theorem Reports.andThen {first second : Step σ κ} (reports : Reports first)
    (quiet : Quiet second) (shows : Shows second) :
    Reports (andThen first second) where
  quiet := reports.quiet.andThen quiet
  shows := reports.shows.andThen shows
  settles table wide := by
    obtain ⟨goes, tells⟩ := reports.quiet table wide
    rw [andThen_of_ok goes]
    exact (quiet _ tells.wide).2.settled (reports.settles table wide)

theorem reports_greet (setting : Setting) : Reports (greet setting : Step σ κ) :=
  reports_report.andThen ((quiet_showView _).andThen (quiet_writeLines _))
    ((shows_showView _).andThen (shows_writeLines _))

/-! ## Steps that change the session -/

/-- A table whose session has done something, which is still to be told. -/
def took {ε α : Type} (outcome : Outcome ε α (Session σ κ))
    (table : Table σ κ) : Table σ κ :=
  { table with
    session := outcome.after, pending := table.pending ++ outcome.events }

theorem tells_took {ε α : Type} {table : Table σ κ}
    (wide : table.room = none) (outcome : Outcome ε α (Session σ κ)) :
    Tells table outcome.events (took outcome table) where
  wide := wide
  happened := (List.append_assoc _ _ _).symm
  written := List.suffix_rfl

theorem act_wide {α : Type} {table : Table σ κ} (wide : table.room = none)
    (style : Style)
    (action : Session σ κ → Outcome SessionError α (Session σ κ))
    {after : Step σ κ} (quiet : Quiet after) :
    (act style action after table).1 = .ok () ∧
      Tells table (action table.session).events
        (act style action after table).2 := by
  have tells := tells_took wide (action table.session)
  -- an accepted action is followed by a step that only writes, and so is a
  -- refused one
  have next : ∃ step : Step σ κ, Quiet step ∧
      act style action after table = step (took (action table.session) table) := by
    cases answered : (action table.session).answer with
    | ok answer => exact ⟨after, quiet, by simp only [act, answered, took]⟩
    | error error =>
        exact ⟨_, quiet_writeLines [style.warning error.message],
          by simp only [act, answered, took]⟩
  obtain ⟨step, quietStep, acts⟩ := next
  obtain ⟨goes, tellsNone⟩ := quietStep _ tells.wide
  rw [acts]
  exact ⟨goes, by simpa using tells.trans tellsNone⟩

theorem saveJournal_eq (table : Table σ κ)
    (flush : Session σ κ → Outcome SessionError Bool (Session σ κ)) :
    saveJournal flush table =
      (match (flush table.session).answer with
        | .ok _ => .ok ()
        | .error error => .error (.journalNotSaved error),
        took (flush table.session) table) := by
  cases answered : (flush table.session).answer <;>
    simp only [saveJournal, answered, took]

/-- Saving the journal and then reporting stops the game only where the journal
cannot be saved.  Otherwise nothing is left to be told. -/
theorem saveAndReport_wide {table : Table σ κ} (wide : table.room = none)
    (flush : Session σ κ → Outcome SessionError Bool (Session σ κ))
    {after : Step σ κ} (reports : Reports after) :
    let flushed := flush table.session
    let left := andThen (saveJournal flush) after table
    Tells table flushed.events left.2 ∧ left.2.session = flushed.after ∧
      ((∃ written, flushed.answer = .ok written) ∧ left.1 = .ok () ∧
          left.2.pending = [] ∨
        ∃ error, flushed.answer = .error error ∧
          left.1 = .error (.journalNotSaved error)) := by
  intro flushed left
  have tells := tells_took wide flushed
  have saves := saveJournal_eq table flush
  cases answer : flushed.answer with
  | ok written =>
      simp only [flushed] at answer
      simp only [answer] at saves
      have same : left = after (took flushed table) := by
        have goes := andThen_of_ok (congrArg Prod.fst saves) after
        rwa [saves] at goes
      obtain ⟨goes, tellsNone⟩ := reports.quiet _ tells.wide
      rw [same]
      exact ⟨by simpa using tells.trans tellsNone, reports.shows _,
        .inl ⟨⟨written, rfl⟩, goes, reports.settles _ tells.wide⟩⟩
  | error error =>
      simp only [flushed] at answer
      simp only [answer] at saves
      have same : left = (.error (.journalNotSaved error), took flushed table) := by
        have stops := andThen_of_error (congrArg Prod.fst saves) after
        rwa [saves] at stops
      rw [same]
      exact ⟨tells, rfl, .inr ⟨error, rfl, rfl⟩⟩

variable [SaveSlot κ]

theorem leave_wide {table : Table σ κ} (wide : table.room = none)
    (setting : Setting) :
    let flushed := table.session.flushNow
    let left := leave setting table
    Tells table flushed.events left.2 ∧ left.2.session = flushed.after ∧
      ((∃ written, flushed.answer = .ok written) ∧ left.1 = .ok () ∧
          left.2.pending = [] ∨
        ∃ error, flushed.answer = .error error ∧
          left.1 = .error (.journalNotSaved error)) :=
  saveAndReport_wide wide Session.flushNow
    (reports_report.andThen (quiet_writeLines _) (shows_writeLines _))

variable [RandomSource σ]

theorem perform_wide {table : Table σ κ} (wide : table.room = none)
    (setting : Setting) (now : Nat) (command : Command) :
    (perform setting now command table).1 = .ok () ∧
      Tells table (table.session.obey now command).events
        (perform setting now command table).2 := by
  have withView : Quiet (andThen report (showView setting.style) : Step σ κ) :=
    quiet_report.andThen (quiet_showView _)
  cases command with
  | roll => exact act_wide wide _ _ quiet_report
  | draw => exact act_wide wide _ _ withView
  | resolve => exact act_wide wide _ _ withView
  | tokens delta => exact act_wide wide _ _ quiet_stay
  | note text =>
      have notes : perform setting now (.note text) table =
          (.ok (), took (table.session.obey now (.note text)) table) := by
        simp [perform, took, Session.obey, Outcome.accept]
      rw [notes]
      exact ⟨rfl, tells_took wide _⟩
  | restart => exact act_wide wide _ _ withView
  | journal => exact quiet_writeLines _ table wide
  | status => exact quiet_showView _ table wide
  | history => exact quiet_writeLines _ table wide
  | story => exact quiet_writeLines _ table wide
  | help => exact quiet_writeLines _ table wide
  | quit => exact quiet_stay table wide

/-- A pass tells what its command causes, and stops the game only where the
journal cannot be saved.  Otherwise nothing is left to be told. -/
theorem pass_wide {table : Table σ κ} (wide : table.room = none)
    (setting : Setting) (moments : Moments) (command : Command) :
    let heeded := table.session.heed moments command
    let passed := pass setting moments command table
    Tells table heeded.events passed.2 ∧ passed.2.session = heeded.after ∧
      ((∃ written, heeded.answer = .ok written) ∧ passed.1 = .ok () ∧
          passed.2.pending = [] ∨
        ∃ error, heeded.answer = .error error ∧
          passed.1 = .error (.journalNotSaved error)) := by
  intro heeded passed
  obtain ⟨goes, tells⟩ := perform_wide wide setting moments.edit command
  have same := session_perform setting moments.edit command table
  have passes : passed = andThen (saveJournal (Session.flush moments.flush))
      report (perform setting moments.edit command table).2 :=
    andThen_of_ok goes _
  have later := saveAndReport_wide tells.wide (Session.flush moments.flush)
    reports_report
  rw [same, ← passes] at later
  exact ⟨tells.trans later.1, later.2⟩

/-! ## Lines -/

/-- A line without a command is at most answered with some lines. -/
theorem takeLine_skipped_wide {table : Table σ κ} (wide : table.room = none)
    (setting : Setting) (moments : Moments) {line : String}
    (skipped : command? (some line) = none) :
    ∃ lines : List String, takeLine setting moments (some line) table =
      (.ok true, wrote (lines.map .line) table) := by
  unfold command? at skipped
  cases parsed : Command.parse line with
  | error error =>
      refine ⟨[setting.style.warning error.message], ?_⟩
      simp only [takeLine, Option.map_some, parsed, writeLines,
        writeEntries_wide wide]
      rfl
  | ok command =>
      simp only [Option.map_some, parsed] at skipped
      subst skipped
      refine ⟨[], ?_⟩
      simp only [takeLine, Option.map_some, parsed]
      rfl

theorem parse_of_command? {line : String} {command : Command}
    (read : command? (some line) = some command) :
    Command.parse line = .ok (some command) := by
  unfold command? at read
  cases parsed : Command.parse line with
  | error error => simp [parsed] at read
  | ok other =>
      simp only [Option.map_some, parsed] at read
      rw [read]

/-- A line tells what its command causes, if it has one.  Unless the game stops
there, nothing is left to be told. -/
theorem takeLine_wide {table : Table σ κ} (wide : table.room = none)
    (settled : table.pending = []) (setting : Setting) (moments : Moments)
    (line : Option String) :
    let script := commands [(moments, line)]
    let taken := takeLine setting moments line table
    Tells table (table.session.scriptEvents script) taken.2 ∧
      ∀ goesOn, taken.1 = .ok goesOn →
        taken.2.pending = [] ∧
          taken.2.session = table.session.afterScript script ∧
          (goesOn = false ↔ command? line = some .quit) := by
  intro script taken
  obtain ⟨-, tellsNone⟩ := quiet_stay table wide
  cases line with
  | none => exact ⟨tellsNone, nofun⟩
  | some line =>
      cases read : command? (some line) with
      | none =>
          obtain ⟨lines, takes⟩ :=
            takeLine_skipped_wide wide setting moments read
          simp only [script, taken, commands_skipped read, takes]
          refine ⟨tells_wrote wide lines, ?_⟩
          rintro goesOn ⟨⟩
          exact ⟨settled, rfl, by simp⟩
      | some command =>
          have parsed := parse_of_command? read
          by_cases quits : command = .quit
          · subst quits
            simp only [script, taken, commands_quit read, takeLine_quit parsed]
            refine ⟨tellsNone, ?_⟩
            rintro goesOn ⟨⟩
            exact ⟨settled, rfl, by simp⟩
          · obtain ⟨tells, after, answer⟩ :=
              pass_wide wide setting moments command
            simp only [script, taken, commands_command quits read,
              takeLine_of_command parsed quits, Session.scriptEvents,
              Session.afterScript, List.append_nil]
            refine ⟨tells, ?_⟩
            intro goesOn goes
            rcases answer with ⟨-, passes, told⟩ | ⟨error, -, stops⟩
            · rw [passes] at goes
              cases goes
              exact ⟨told, after, by simpa using quits⟩
            · rw [stops] at goes
              cases goes

/-! ## Arrivals -/

/-- That some lines are taken one after the other, after the greeting and
without leaving, and where this arrives: at the table at which the next line is
taken. -/
inductive Arrives (setting : Setting) (start : Table σ κ) :
    List (Moments × Option String) → Table σ κ → Prop where
  | greeted {table : Table σ κ} :
      greet setting start = (.ok (), table) → Arrives setting start [] table
  | taken {front : List (Moments × Option String)} {moments : Moments}
      {line : Option String} {table next : Table σ κ} :
      Arrives setting start front table →
      takeLine setting moments line table = (.ok true, next) →
      Arrives setting start (front ++ [(moments, line)]) next

theorem Arrives.stays {setting : Setting} {start table : Table σ κ}
    {front : List (Moments × Option String)}
    (arrives : Arrives setting start front table) : Stays front := by
  induction arrives with
  | greeted => exact fun _ => nofun
  | @taken front moments line table next _ takes stays =>
      intro entry member
      rcases List.mem_append.mp member with earlier | last
      · exact stays entry earlier
      · cases List.mem_singleton.mp last
        intro quits
        cases line with
        | none => cases takes
        | some line =>
            rw [takeLine_quit (parse_of_command? quits)] at takes
            cases takes

/-- How a table stands where lines have been taken since it was opened with a
session: all that their commands caused was told. -/
structure Stands (session : Session σ κ)
    (front : List (Moments × Option String)) (table : Table σ κ) : Prop where
  wide : table.room = none
  settled : table.pending = []
  told : table.told = session.scriptEvents (commands front)
  session_eq : table.session = session.afterScript (commands front)

theorem Stands.next {session : Session σ κ}
    {front : List (Moments × Option String)} {table next : Table σ κ}
    (stands : Stands session front table) (stays : Stays front)
    {setting : Setting} {moments : Moments} {line : Option String}
    (taken : takeLine setting moments line table = (.ok true, next)) :
    Stands session (front ++ [(moments, line)]) next := by
  obtain ⟨tells, goes⟩ :=
    takeLine_wide stands.wide stands.settled setting moments line
  rw [taken] at tells goes
  obtain ⟨settled, after, -⟩ := goes true rfl
  have script : commands (front ++ [(moments, line)]) =
      commands front ++ commands [(moments, line)] := commands_append stays
  exact {
    wide := tells.wide
    settled := settled
    told := by
      rw [tells.told_eq stands.settled settled, stands.told, script,
        Session.scriptEvents_append, ← stands.session_eq]
    session_eq := by
      rw [after, script, Session.afterScript_append, ← stands.session_eq] }

theorem Arrives.stands {setting : Setting} {session : Session σ κ}
    {front : List (Moments × Option String)} {table : Table σ κ}
    (arrives : Arrives setting (opened session none) front table) :
    Stands session front table := by
  induction arrives with
  | @greeted table greets =>
      have reports : Reports (greet setting : Step σ κ) := reports_greet setting
      obtain ⟨-, tells⟩ := reports.quiet (opened session none) rfl
      have settled := reports.settles (opened session none) rfl
      have same := reports.shows (opened session none)
      rw [greets] at tells settled same
      exact {
        wide := tells.wide
        settled := settled
        told := tells.told_eq rfl settled
        session_eq := same }
  | taken arrives takes stands => exact stands.next arrives.stays takes

theorem takeLine_leaves {setting : Setting} {moments : Moments}
    {line : Option String} {table next : Table σ κ}
    (taken : takeLine setting moments line table = (.ok false, next)) :
    command? line = some .quit ∧ next = table := by
  cases line with
  | none => cases taken
  | some line =>
      by_cases skipped : ∀ command, Command.parse line ≠ .ok (some command)
      · exact absurd (takeLine_skipped skipped taken).1 (by decide)
      · obtain ⟨command, parsed⟩ := Classical.not_forall_not.mp skipped
        by_cases quits : command = .quit
        · subst quits
          rw [takeLine_quit parsed] at taken
          cases taken
          exact ⟨by simp [command?, parsed], rfl⟩
        · exact absurd (takeLine_command parsed quits taken).1 (by decide)

/-- A script that reaches its end arrives where it leaves, having taken all its
commands. -/
theorem arrives_of_takeLines {setting : Setting} {start table final : Table σ κ}
    {front lines : List (Moments × Option String)}
    (arrives : Arrives setting start front table)
    (ends : takeLines setting lines table = (.ok (), final)) :
    ∃ taken leaving, Arrives setting start taken leaving ∧
      commands taken = commands (front ++ lines) ∧
      leave setting leaving = (.ok (), final) := by
  -- the front takes over line by line what is still to be taken
  induction lines generalizing front table with
  | nil => exact ⟨front, table, arrives, by rw [List.append_nil], ends⟩
  | cons entry lines induction =>
      obtain ⟨moments, line⟩ := entry
      obtain ⟨goesOn, next, takes, rest⟩ := takeLines_cons_eq_ok ends
      cases goesOn with
      | true =>
          obtain ⟨taken, leaving, arrived, same, left⟩ :=
            induction (arrives.taken takes) rest
          refine ⟨taken, leaving, arrived, ?_, left⟩
          rw [same, List.append_assoc, List.singleton_append]
      | false =>
          obtain ⟨quits, rfl⟩ := takeLine_leaves takes
          refine ⟨front, next, arrives, ?_, rest⟩
          rw [commands_append arrives.stays, commands_quit quits,
            List.append_nil]

theorem arrives_of_play {setting : Setting} {start final : Table σ κ}
    {lines : List (Moments × Option String)}
    (ends : play setting lines start = (.ok (), final)) :
    ∃ taken leaving, Arrives setting start taken leaving ∧
      commands taken = commands lines ∧
      leave setting leaving = (.ok (), final) := by
  obtain ⟨greeted, greets, takes⟩ := andThen_eq_ok.mp ends
  exact arrives_of_takeLines (.greeted greets) takes

/-- Every event is told once.  A game at the table that reaches its end has told
just the events that the commands of its script caused, and the saving of the
journal among them and at the end, in the order in which they happened.  At
every arrival all that has happened was told, and taking the next line tells
nothing but what this line causes. -/
theorem events_told_once (setting : Setting) (session : Session σ κ)
    (lines : List (Moments × Option String)) :
    (∀ final, play setting lines (opened session none) = (.ok (), final) →
      let left := session.afterScript (commands lines)
      final.told =
          session.scriptEvents (commands lines) ++ left.flushNow.events ∧
        final.session = left.flushNow.after ∧ final.pending = []) ∧
    ∀ front table, Arrives setting (opened session none) front table →
      table.pending = [] ∧
        table.told = session.scriptEvents (commands front) ∧
        ∀ moments line,
          let next := (takeLine setting moments line table).2
          ∃ entries : List Entry,
            next.transcript = entries.reverse ++ table.transcript ∧
              entries.filterMap Entry.event? ++ next.pending =
                table.session.scriptEvents (commands [(moments, line)]) := by
  constructor
  · intro final ends left
    obtain ⟨taken, leaving, arrives, same, leaves⟩ := arrives_of_play ends
    have stands := arrives.stands
    obtain ⟨tells, after, answer⟩ := leave_wide stands.wide setting
    rw [leaves] at tells after answer
    rw [stands.session_eq, same] at tells after
    have settled : final.pending = [] := by
      rcases answer with ⟨-, -, settled⟩ | ⟨error, -, ⟨⟩⟩
      exact settled
    refine ⟨?_, after, settled⟩
    rw [tells.told_eq stands.settled settled, stands.told, same]
  · intro front table arrives
    have stands := arrives.stands
    refine ⟨stands.settled, stands.told, ?_⟩
    intro moments line next
    exact (takeLine_wide stands.wide stands.settled setting moments line).1.entries
      stands.settled

/-- A roll whose save is refused is told all the same, right away, and so is the
saving of a note on leaving. -/
theorem events_told_once_refused :
    let session := begun refusesSecond Loaded.threes
    (∃ final,
      typed ["roll", "note rain", "quit", "draw"] session = (.ok (), final) ∧
        final.told = [.turnRolled 1 3, .journalSaved 4] ∧ final.pending = []) ∧
    ∃ table,
      Arrives { story := none, style := .plain } (opened session none)
          [({ edit := 0, flush := 0 }, some "roll")] table ∧
        table.told = [.turnRolled 1 3] ∧ table.pending = [] := by
  intro session
  let setting : Setting := { story := none, style := .plain }
  let greeted := (greet setting (opened session none)).2
  let rolled := takeLine setting { edit := 0, flush := 0 } (some "roll") greeted
  obtain ⟨reaches, greets, rolls⟩ :
      (typed ["roll", "note rain", "quit", "draw"] session).1 = .ok () ∧
        (greet setting (opened session none)).1 = .ok () ∧
          rolled.1 = .ok true := by
    decide +kernel
  have ends := Prod.fst_eq_iff.mp reaches
  have arrives : Arrives setting (opened session none)
      ([] ++ [({ edit := 0, flush := 0 }, some "roll")]) rolled.2 :=
    .taken (.greeted (Prod.fst_eq_iff.mp greets)) (Prod.fst_eq_iff.mp rolls)
  have whole := events_told_once setting session
    (["roll", "note rain", "quit", "draw"].map fun line =>
      ({ edit := 0, flush := 0 }, some line))
  obtain ⟨told, -, settled⟩ := whole.1 _ ends
  obtain ⟨settledFirst, toldFirst, -⟩ := whole.2 _ _ arrives
  exact ⟨⟨_, ends, told.trans (by decide +kernel), settled⟩,
    _, arrives, toldFirst.trans (by decide +kernel), settledFirst⟩

end Terminal.Table

end SoloJournal
