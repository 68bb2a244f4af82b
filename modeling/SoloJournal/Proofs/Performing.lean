import SoloJournal.Proofs.Notes
import SoloJournal.Proofs.Reporting
import SoloJournal.Proofs.WriteThrough

/-!
# A script is performed

With a slot that grants everything and a screen that takes everything, a script
comes to what its commands do to the game, one after the other.  Saving, showing
and reporting leave the game alone, and so do lines that are skipped and
actions that are refused.
-/

namespace SoloJournal

open Terminal (Command Entry Moments Setting Stays Style Table TableError command?
  commands journalParts latestNotes)

/-! ## Slots that grant everything -/

/-- A slot that grants whatever is asked of it, now and later. -/
def Granting {κ : Type} [SaveSlot κ] (slot : κ) : Prop :=
  ∀ requests, (Request.carryOut slot requests).1 = requests

namespace Granting

variable {κ : Type} [SaveSlot κ] {slot after : κ}
  {answer : Except SaveError Unit}

theorem call (grants : Granting slot) (request : Request)
    (called : request.call slot = (answer, after)) :
    answer = .ok () ∧ Granting after := by
  have granted := fun requests => grants (request :: requests)
  simp only [Request.carryOut, called] at granted
  cases answer with
  | ok done =>
      exact ⟨rfl, fun requests => List.tail_eq_of_cons_eq (granted requests)⟩
  | error error => cases granted []

theorem carryOut (grants : Granting slot) (requests : List Request) :
    Granting (Request.carryOut slot requests).2 := by
  induction requests generalizing slot with
  | nil => exact grants
  | cons request requests induction =>
      rw [Request.carryOut]
      cases called : request.call slot with
      | mk answer after =>
          obtain ⟨rfl, grantsOn⟩ := grants.call request called
          exact induction grantsOn

end Granting

/-! ## Commands as moves -/

namespace Terminal.Command

/-- The move of a command, if it has one, in a game with some journal. -/
def move? (journal : String) : Command → Option Move
  | roll => some .roll
  | draw => some .draw
  | resolve => some .resolve
  | tokens delta => some (.adjustTokens delta)
  | note text => some (.write (Table.withNote journal text))
  | restart => some .restart
  | Command.journal | status | history | story | help | quit => none

end Terminal.Command

namespace Game

variable {σ : Type} [RandomSource σ]

/-- The game after a command: after its move, if it has one, whether the game
accepts it or not. -/
def obey (game : Game σ) (command : Command) : Game σ :=
  match command.move? game.journal with
  | some move => (game.perform move).after
  | none => game

theorem journal_obey (game : Game σ) (command : Command) :
    (game.obey command).journal = command.journalAfter game.journal := by
  have kept : ∀ move : Move, move.IsAction →
      (game.perform move).after.journal = game.journal :=
    fun _ => journal_perform
  cases command with
  | roll => exact kept .roll trivial
  | draw => exact kept .draw trivial
  | resolve => exact kept .resolve trivial
  | tokens delta => exact kept (.adjustTokens delta) trivial
  | _ => rfl

theorem journal_obey_all (game : Game σ) (commands : List Command) :
    (commands.foldl obey game).journal =
      commands.foldl Command.journalAfter game.journal := by
  induction commands generalizing game with
  | nil => rfl
  | cons command commands induction =>
      rw [List.foldl_cons, List.foldl_cons, induction, journal_obey]

end Game

/-- The deed of a move of a session. -/
def Move.deed (now : Nat) : Move → Deed
  | .roll => .roll
  | .draw => .draw
  | .resolve => .resolve
  | .adjustTokens delta => .adjustTokens delta
  | .write text => .edit text now
  | .restart => .restart

theorem Move.move?_deed (now : Nat) (move : Move) :
    (move.deed now).move? = some move := by
  cases move <;> rfl

theorem Outcome.map_map {ε α β γ τ : Type} (first : α → β) (second : β → γ)
    (outcome : Outcome ε α τ) :
    (outcome.map first).map second = outcome.map fun answer =>
      second (first answer) := by
  unfold Outcome.map
  cases outcome.answer <;> rfl

namespace Session

variable {σ κ : Type} [SaveSlot κ] [RandomSource σ] {session : Session σ κ}

theorem obey_of_move {command : Command} {move : Move} (now : Nat)
    (asks : command.move? session.game.journal = some move) :
    session.obey now command = (session.perform (move.deed now)).map fun _ => () := by
  cases command with
  | note text =>
      cases asks
      rfl
  | _ => cases asks <;> simp only [obey, perform, Move.deed, Outcome.map_map]

theorem obey_of_no_move {command : Command} (now : Nat)
    (idle : command.move? session.game.journal = none) :
    session.obey now command = .accept () [] session := by
  cases command <;> cases idle <;> rfl

theorem granting_perform (grants : Granting session.slot) (deed : Deed) :
    Granting (session.perform deed).after.slot := by
  rw [slot_perform]
  exact grants.carryOut _

/-- Where the slot grants everything, a deed does to the game what its move
does. -/
theorem game_perform (grants : Granting session.slot) (deed : Deed) :
    (session.perform deed).after.game =
      match deed.move? with
      | some move => (session.game.perform move).after
      | none => session.game := by
  have does := does_perform session deed
  generalize session.perform deed = outcome at does
  generalize Request.carryOut session.slot (session.requests deed) = made at does
  -- a refused save comes after the move, so only a refused clearing would matter
  cases does with
  | rejected action refused =>
      simp only [Deed.move?_of_action? action, refused]
      rfl
  | played action => simp only [Deed.move?_of_action? action, Outcome.accept]
  | unsaved action => simp only [Deed.move?_of_action? action]
  | uncleared refused =>
      cases (grants.call .clear refused).1
  | dealt => rfl
  | dealtUnsaved => rfl
  | edited => rfl
  | waited flushes => simp only [move?_of_due? flushes, Outcome.accept]
  | flushed flushes => simp only [move?_of_due? flushes, Outcome.accept]
  | unflushed flushes => simp only [move?_of_due? flushes, Outcome.refuse]

/-- Where the slot grants everything, a command does to the game what its move
does, and the slot goes on granting. -/
theorem obey_granting (grants : Granting session.slot) (now : Nat)
    (command : Command) :
    (session.obey now command).after.game = session.game.obey command ∧
      Granting (session.obey now command).after.slot := by
  unfold Game.obey
  cases asks : command.move? session.game.journal with
  | none =>
      rw [obey_of_no_move now asks]
      exact ⟨rfl, grants⟩
  | some move =>
      rw [obey_of_move now asks]
      have game := game_perform grants (move.deed now)
      rw [move.move?_deed] at game
      exact ⟨game, granting_perform grants _⟩

/-- An action that the rules refuse leaves the session as it was. -/
theorem obey_rejected {now : Nat} {command : Command} {error : GameError}
    (rejected : (session.obey now command).answer = .error (.game error)) :
    session.obey now command = .refuse (.game error) session := by
  cases asks : command.move? session.game.journal with
  | none =>
      rw [obey_of_no_move now asks] at rejected
      cases rejected
  | some move =>
      rw [obey_of_move now asks] at rejected ⊢
      generalize move.deed now = deed at rejected ⊢
      have does := does_perform session deed
      generalize session.perform deed = outcome at does rejected ⊢
      generalize Request.carryOut session.slot (session.requests deed) = made
        at does
      cases does <;> cases rejected
      rfl

/-- That a flush succeeds, and leaves the game alone. -/
structure Harmless (session : Session σ κ)
    (outcome : Outcome SessionError Bool (Session σ κ)) : Prop where
  ok : ∃ written, outcome.answer = .ok written
  game : outcome.after.game = session.game
  grants : Granting outcome.after.slot

omit [RandomSource σ] in
theorem harmless_saveJournal (grants : Granting session.slot) :
    Harmless session session.saveJournal := by
  unfold saveJournal persist
  cases saved : SaveSlot.save session.game.saved session.slot with
  | mk answer slot =>
      obtain ⟨rfl, grantsOn⟩ := grants.call (.save _) saved
      exact ⟨⟨true, rfl⟩, rfl, grantsOn⟩

omit [RandomSource σ] in
theorem harmless_flush (grants : Granting session.slot) (now : Nat) :
    Harmless session (session.flush now) := by
  unfold flush
  split
  · exact harmless_saveJournal grants
  · exact ⟨⟨false, rfl⟩, rfl, grants⟩

omit [RandomSource σ] in
theorem harmless_flushNow (grants : Granting session.slot) :
    Harmless session session.flushNow := by
  unfold flushNow
  split
  · exact harmless_saveJournal grants
  · exact ⟨⟨false, rfl⟩, rfl, grants⟩

theorem heed_granting (grants : Granting session.slot) (moments : Moments)
    (command : Command) :
    (∃ written, (session.heed moments command).answer = .ok written) ∧
      (session.heed moments command).after.game = session.game.obey command ∧
      Granting (session.heed moments command).after.slot := by
  obtain ⟨game, grantsOn⟩ := obey_granting grants moments.edit command
  have flushed := harmless_flush grantsOn moments.flush
  exact ⟨flushed.ok, flushed.game.trans game, flushed.grants⟩

theorem afterScript_granting (grants : Granting session.slot)
    (script : List (Moments × Command)) :
    (session.afterScript script).game =
        (script.map Prod.snd).foldl Game.obey session.game ∧
      Granting (session.afterScript script).slot := by
  induction script generalizing session with
  | nil => exact ⟨rfl, grants⟩
  | cons first script induction =>
      obtain ⟨moments, command⟩ := first
      obtain ⟨-, game, grantsOn⟩ := heed_granting grants moments command
      obtain ⟨later, grantsLater⟩ := induction grantsOn
      rw [game] at later
      exact ⟨later, grantsLater⟩

/-- The session after commands that are obeyed one after the other, with no
saving of the journal in between. -/
def obeyAll (session : Session σ κ) (script : List (Moments × Command)) :
    Session σ κ :=
  script.foldl
    (fun session entry => (session.obey entry.1.edit entry.2).after) session

theorem game_obeyAll (grants : Granting session.slot)
    (script : List (Moments × Command)) :
    (session.obeyAll script).game =
      (script.map Prod.snd).foldl Game.obey session.game := by
  induction script generalizing session with
  | nil => rfl
  | cons first script induction =>
      obtain ⟨game, grantsOn⟩ := obey_granting grants first.1.edit first.2
      have later := induction grantsOn
      rw [game] at later
      exact later

end Session

namespace Terminal

/-- Lines that can all be read. -/
def readable (script : List (Moments × String)) :
    List (Moments × Option String) :=
  script.map fun entry => (entry.1, some entry.2)

theorem readable_append (front back : List (Moments × String)) :
    readable (front ++ back) = readable front ++ readable back :=
  List.map_append

/-- The commands of a script, up to where it quits. -/
def givenCommands (script : List (Moments × String)) : List Command :=
  (commands (readable script)).map Prod.snd

theorem typed_of_given {script : List (Moments × String)} {command : Command}
    (given : command ∈ givenCommands script) :
    ∃ entry ∈ script, Command.parse entry.2 = .ok (some command) := by
  obtain ⟨⟨moments, command⟩, member, rfl⟩ := List.mem_map.mp given
  obtain ⟨entry, taken, same⟩ := List.mem_filterMap.mp member
  obtain ⟨typed, entered, rfl⟩ :=
    List.mem_map.mp ((List.takeWhile_prefix _).mem taken)
  obtain ⟨command, read, ⟨⟩⟩ := Option.map_eq_some_iff.mp same
  exact ⟨typed, entered, Table.parse_of_command? read⟩

/-- A script leaves a journal that consists of its parts. -/
theorem journal_of_script {σ : Type} [RandomSource σ] (game : Game σ)
    (script : List (Moments × String)) :
    ((givenCommands script).foldl Game.obey game).journal =
      "\n".intercalate (journalParts game.journal (givenCommands script)) := by
  rw [Game.journal_obey_all]
  apply journal_eq_parts
  intro text given
  obtain ⟨entry, -, parsed⟩ := typed_of_given given
  exact (Command.note_of_parse parsed).1

namespace Table

variable {σ κ : Type} [SaveSlot κ] {setting : Setting}

/-! ## What a game at the table comes to -/

theorem leave_granting {table : Table σ κ} (wide : table.room = none)
    (grants : Granting table.session.slot) :
    ∃ final, leave setting table = (.ok (), final) := by
  obtain ⟨written, flushed⟩ := (Session.harmless_flushNow grants).ok
  obtain ⟨-, -, answer⟩ := leave_wide wide setting
  rcases answer with ⟨-, leaves, -⟩ | ⟨error, refused, -⟩
  · exact ⟨_, Prod.fst_eq_iff.mp leaves⟩
  · rw [flushed] at refused
    cases refused

theorem greet_granting {session : Session σ κ}
    (grants : Granting session.slot) :
    ∃ table, greet setting (opened session none) = (.ok (), table) ∧
      table.room = none ∧ Granting table.session.slot := by
  have reports : Reports (greet setting : Step σ κ) := reports_greet setting
  obtain ⟨greets, tells⟩ := reports.quiet (opened session none) rfl
  have same := reports.shows (opened session none)
  refine ⟨_, Prod.fst_eq_iff.mp greets, tells.wide, ?_⟩
  rw [same]
  exact grants

variable [RandomSource σ]

/-- Where the slot and the screen take everything, every line but one that quits
is dealt with. -/
theorem takeLine_granting {table : Table σ κ} (wide : table.room = none)
    (grants : Granting table.session.slot) (moments : Moments) {line : String}
    (stays : command? (some line) ≠ some .quit) :
    ∃ next, takeLine setting moments (some line) table = (.ok true, next) ∧
      next.room = none ∧ Granting next.session.slot := by
  cases read : command? (some line) with
  | none =>
      obtain ⟨lines, takes⟩ := takeLine_skipped_wide wide setting moments read
      exact ⟨_, takes, wide, grants⟩
  | some command =>
      have goesOn : command ≠ .quit := by
        rintro rfl
        exact stays read
      obtain ⟨⟨written, heeded⟩, -, grantsOn⟩ :=
        Session.heed_granting grants moments command
      obtain ⟨tells, after, answer⟩ := pass_wide wide setting moments command
      rw [← after] at grantsOn
      rw [takeLine_of_command (parse_of_command? read) goesOn]
      rcases answer with ⟨-, passes, -⟩ | ⟨error, refused, -⟩
      · rw [passes]
        exact ⟨_, rfl, tells.wide, grantsOn⟩
      · rw [heeded] at refused
        cases refused

theorem takeLines_granting {table : Table σ κ} (wide : table.room = none)
    (grants : Granting table.session.slot) (script : List (Moments × String)) :
    ∃ final, takeLines setting (readable script) table = (.ok (), final) := by
  induction script generalizing table with
  | nil => exact leave_granting wide grants
  | cons entry script induction =>
      obtain ⟨moments, line⟩ := entry
      show ∃ final, takeLines setting ((moments, some line) :: readable script)
        table = (.ok (), final)
      unfold takeLines
      by_cases quits : command? (some line) = some .quit
      · rw [takeLine_quit (parse_of_command? quits)]
        exact leave_granting wide grants
      · obtain ⟨next, takes, wideNext, grantsNext⟩ :=
          takeLine_granting wide grants moments quits
        rw [takes]
        exact induction wideNext grantsNext

theorem play_granting (setting : Setting) {session : Session σ κ}
    (grants : Granting session.slot) (script : List (Moments × String)) :
    ∃ final,
      play setting (readable script) (opened session none) = (.ok (), final) := by
  obtain ⟨table, greets, wide, grantsOn⟩ := greet_granting grants
  obtain ⟨final, takes⟩ := takeLines_granting wide grantsOn script
  exact ⟨final, andThen_eq_ok.mpr ⟨table, greets, takes⟩⟩

theorem arrives_granting (setting : Setting) {session : Session σ κ}
    (grants : Granting session.slot) {front : List (Moments × String)}
    (stays : Stays (readable front)) :
    ∃ table, Arrives setting (opened session none) (readable front) table ∧
      table.room = none ∧ Granting table.session.slot := by
  induction front using List.reverseRecOn with
  | nil =>
      obtain ⟨table, greets, rest⟩ := greet_granting grants
      exact ⟨table, .greeted greets, rest⟩
  | append_singleton front entry induction =>
      rw [readable_append] at stays ⊢
      obtain ⟨staysFront, staysLast⟩ := List.forall_mem_append.mp stays
      obtain ⟨table, arrives, wide, grantsOn⟩ := induction staysFront
      obtain ⟨next, takes, rest⟩ := takeLine_granting wide grantsOn entry.1
        (staysLast _ List.mem_cons_self)
      exact ⟨next, arrives.taken takes, rest⟩

/-- Nothing after a line that quits matters. -/
theorem play_quit {moments : Moments} {line : String}
    (quits : Command.parse line = .ok (some .quit))
    (front back : List (Moments × String)) (start : Table σ κ) :
    play setting (readable (front ++ (moments, line) :: back)) start =
      play setting (readable front) start := by
  have same : ∀ table : Table σ κ,
      takeLines setting (readable (front ++ (moments, line) :: back)) table =
        takeLines setting (readable front) table := by
    induction front with
    | nil =>
        intro table
        show takeLines setting ((moments, some line) :: readable back) table = _
        rw [takeLines, takeLine_quit quits]
        rfl
    | cons entry front induction =>
        intro table
        show takeLines setting ((entry.1, some entry.2) ::
            readable (front ++ (moments, line) :: back)) table =
          takeLines setting ((entry.1, some entry.2) :: readable front) table
        simp only [takeLines, induction]
  unfold play andThen
  simp only [same]

/-- What the journal command writes of a journal that consists of notes. -/
def journalLines (notes : List String) : List String :=
  if notes = [] then ["(the journal is empty)"] else notes

/-- The journal command writes the notes, one on each line, or else that there
are none; and then the saving of the journal is told, if it was saved. -/
theorem takeLine_journal {table : Table σ κ} (wide : table.room = none)
    (settled : table.pending = []) (grants : Granting table.session.slot)
    (moments : Moments) {line : String}
    (parsed : Command.parse line = .ok (some .journal)) {notes : List String}
    (kept : table.session.game.journal = "\n".intercalate notes)
    (plain : ∀ text ∈ notes, Text.TakesLine text) :
    ∃ next, takeLine setting moments (some line) table = (.ok true, next) ∧
      next.transcript =
        ((journalLines notes).map Entry.line
          ++ (table.session.flush moments.flush).events.map Entry.event).reverse
            ++ table.transcript := by
  have shown : (if table.session.game.journal.isEmpty
      then ["(the journal is empty)"]
      else Text.lines table.session.game.journal) = journalLines notes := by
    rw [kept, isEmpty_intercalate fun text member => (plain text member).1,
      Text.lines_intercalate plain, journalLines]
    simp only [List.isEmpty_iff]
  have performs : perform setting moments.edit .journal table =
      (.ok (), wrote ((journalLines notes).map .line) table) := by
    simp only [perform, shown, writeLines, writeEntries_wide wide]
  obtain ⟨written, flushed⟩ := (Session.harmless_flush grants moments.flush).ok
  have saves := saveJournal_eq (wrote ((journalLines notes).map .line) table)
    (Session.flush moments.flush)
  have answered : ((wrote ((journalLines notes).map .line) table).session.flush
      moments.flush).answer = .ok written := flushed
  simp only [answered] at saves
  rw [takeLine_of_command parsed (by decide), pass,
    andThen_of_ok (congrArg Prod.fst performs), performs,
    andThen_of_ok (congrArg Prod.fst saves), saves, report_wide (by exact wide)]
  refine ⟨_, rfl, ?_⟩
  simp [wrote, took, settled]

/-- A script is performed.  Where the slot grants everything and the screen takes
everything, a game at the table reaches its end, and its game is then what comes
of obeying, one after the other, the commands before the first line that quits;
nothing from that line on matters.  An action that the rules refuse leaves the
session as it was.  The journal is then what it began with and the notes since
then, or only the notes since the last new game, joined by line feeds.  And where
a journal that began empty is to be shown, the notes are, one to a line, or else
the one line that says that there are none. -/
theorem script_performed (setting : Setting) {session : Session σ κ}
    (grants : Granting session.slot) (script : List (Moments × String)) :
    (∃ final,
      play setting (readable script) (opened session none) = (.ok (), final) ∧
        final.session.game =
          (session.obeyAll (commands (readable script))).game ∧
        final.session.game =
          (givenCommands script).foldl Game.obey session.game ∧
        final.session.game.journal = "\n".intercalate
          (journalParts session.game.journal (givenCommands script))) ∧
      (∀ moments line back, Command.parse line = .ok (some .quit) →
        play setting (readable (script ++ (moments, line) :: back))
            (opened session none) =
          play setting (readable script) (opened session none)) ∧
      (∀ (held : Session σ κ) (now : Nat) (command : Command)
        (error : GameError),
        (held.obey now command).answer = .error (.game error) →
          held.obey now command = .refuse (.game error) held) ∧
      (Stays (readable script) → (∀ entry ∈ script, '\n' ∉ entry.2.toList) →
        (session.game.journal = "" ∨ .restart ∈ givenCommands script) →
          ∀ moments line, Command.parse line = .ok (some .journal) →
            ∃ table next,
              Arrives setting (opened session none) (readable script) table ∧
                takeLine setting moments (some line) table = (.ok true, next) ∧
                next.transcript =
                  ((journalLines (latestNotes (givenCommands script))).map
                      Entry.line
                    ++ (table.session.flush moments.flush).events.map
                      Entry.event).reverse ++ table.transcript) := by
  have performed : ∀ script : List (Moments × String),
      (session.afterScript (commands (readable script))).game =
        (givenCommands script).foldl Game.obey session.game :=
    fun script => (Session.afterScript_granting grants _).1
  refine ⟨?_, ?_, fun held _ _ _ => Session.obey_rejected, ?_⟩
  · -- leaving saves the journal, which leaves the game alone
    obtain ⟨final, ends⟩ := play_granting setting grants script
    obtain ⟨taken, leaving, arrives, same, leaves⟩ := arrives_of_play ends
    have stands := arrives.stands
    obtain ⟨-, after, -⟩ := leave_wide stands.wide setting
    rw [leaves, stands.session_eq, same] at after
    have grantsOn := (Session.afterScript_granting grants
      (commands (readable script))).2
    have game : final.session.game =
        (givenCommands script).foldl Game.obey session.game := by
      rw [after, (Session.harmless_flushNow grantsOn).game, performed]
    refine ⟨final, ends, ?_, game, ?_⟩
    · rw [game, Session.game_obeyAll grants]
      rfl
    · rw [game, journal_of_script]
  · exact fun moments line back quits => play_quit quits script back _
  · intro stays free begins moments line parsed
    obtain ⟨table, arrives, wide, grantsOn⟩ := arrives_granting setting grants stays
    have stands := arrives.stands
    have plain : ∀ text ∈ latestNotes (givenCommands script),
        Text.TakesLine text := by
      intro text latest
      obtain ⟨entry, entered, read⟩ := typed_of_given (note_of_latest latest)
      exact takesLine_of_parse read (free entry entered)
    -- what the journal began with is empty or gone, so only notes are left
    have kept : table.session.game.journal =
        "\n".intercalate (latestNotes (givenCommands script)) := by
      rw [stands.session_eq, performed, journal_of_script, journalParts,
        if_pos begins, List.nil_append]
    obtain ⟨next, takes, written⟩ :=
      takeLine_journal wide stands.settled grantsOn moments parsed kept plain
    exact ⟨table, next, arrives, takes, written⟩

/-- Two notes, with a line between them that says nothing, are shown and kept. -/
theorem script_performed_noted :
    let session := begun MemorySlot.empty Loaded.threes
    let setting : Setting := { story := none, style := .plain }
    let script := ["note rain", "howl", "NOTE  hail "].map fun line =>
      (({ edit := 0, flush := 0 } : Moments), line)
    (∃ final,
      play setting (readable script) (opened session none) = (.ok (), final) ∧
        final.session.game.journal = "rain\nhail") ∧
    ∃ table next, ∃ told : List Event,
      Arrives setting (opened session none) (readable script) table ∧
        takeLine setting { edit := 0, flush := 0 } (some "journal") table =
          (.ok true, next) ∧
        next.transcript =
          (["rain", "hail"].map Entry.line ++ told.map Entry.event).reverse
            ++ table.transcript := by
  intro session setting script
  have grants : Granting session.slot := UnfailingSlot.carryOut_fst _
  have given : givenCommands script = [.note "rain", .note "hail"] := by
    decide +kernel
  have stays : Stays (readable script) := by decide +kernel
  have free : ∀ entry ∈ script, '\n' ∉ entry.2.toList := by decide +kernel
  obtain ⟨⟨final, ends, -, -, journal⟩, -, -, shown⟩ :=
    script_performed setting grants script
  obtain ⟨table, next, arrives, takes, written⟩ := shown stays free (.inl rfl)
    { edit := 0, flush := 0 } "journal" (by decide +kernel)
  rw [given] at journal written
  exact ⟨⟨final, ends, journal⟩, table, next, _, arrives, takes, written⟩

/-- A journal without a note is shown by a line that no note says. -/
theorem journal_shown_without_notes :
    let session := begun MemorySlot.empty Loaded.threes
    let setting : Setting := { story := none, style := .plain }
    Granting session.slot ∧ session.game.journal = "" ∧
      latestNotes (givenCommands []) = [] ∧
      ∃ table next,
        Arrives setting (opened session none) (readable []) table ∧
          takeLine setting { edit := 0, flush := 0 } (some "journal") table =
            (.ok true, next) ∧
          next.transcript ≠
            ((latestNotes (givenCommands [])).map Entry.line
              ++ (table.session.flush 0).events.map Entry.event).reverse
                ++ table.transcript ∧
          next.transcript =
            .line "(the journal is empty)" :: table.transcript := by
  intro session setting
  let greeted := (greet setting (opened session none)).2
  let shown := takeLine setting { edit := 0, flush := 0 } (some "journal") greeted
  obtain ⟨greets, shows, other, written⟩ :
      (greet setting (opened session none)).1 = .ok () ∧ shown.1 = .ok true ∧
        shown.2.transcript ≠
          ((latestNotes (givenCommands [])).map Entry.line
            ++ (greeted.session.flush 0).events.map Entry.event).reverse
              ++ greeted.transcript ∧
        shown.2.transcript =
          .line "(the journal is empty)" :: greeted.transcript := by
    decide +kernel
  exact ⟨UnfailingSlot.carryOut_fst _, rfl, rfl, greeted, shown.2,
    .greeted (Prod.fst_eq_iff.mp greets), Prod.fst_eq_iff.mp shows, other,
    written⟩

end Table

end Terminal

end SoloJournal
