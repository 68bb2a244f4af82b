import SoloJournal.Save.Session
import SoloJournal.Terminal.Command
import SoloJournal.Terminal.Lines
import SoloJournal.Text.Line

/-!
# At the table

A player types one command per line and sees lines of text.  Each command is
performed, settled edits of the journal are saved, and every event that this
caused is reported once, in its order.  At the end the journal is saved,
settled or not.

What the player sees is kept as a transcript.  A screen may take only so many
bytes; writing past them stops the game at the table.
-/

namespace SoloJournal.Terminal

/-- A line that was written. -/
inductive Entry where
  | event (event : Event)
  | line (text : String)
  deriving DecidableEq

namespace Entry

/-- The text of an entry; an event may have none. -/
def text? (catalog : Catalog) : Entry → Option String
  | .event happened => eventLine? catalog happened
  | .line text => some text

end Entry

/-- Why a game at the table stops before its end. -/
inductive TableError where
  | screenClosed
  | unreadableLine
  | journalNotSaved (error : SessionError)
  deriving DecidableEq

namespace TableError

/-- An error in words, with its causes after it. -/
def message : TableError → String
  | screenClosed => "closed"
  | unreadableLine => "read command: stream did not contain valid UTF-8"
  | journalNotSaved error => "save journal: " ++ error.chain

end TableError

/-- When the journal is edited and when it is looked at for saving, while one
line is dealt with. -/
structure Moments where
  edit : Nat
  flush : Nat

/-- What does not change at a table. -/
structure Setting where
  story : Option String
  style : Style

/-- A session in play, the events that are not reported yet, and what was
written, the latest entry first. -/
structure Table (σ κ : Type) where
  session : Session σ κ
  pending : List Event
  transcript : List Entry
  /-- How many bytes the screen still takes, if that is limited. -/
  room : Option Nat

namespace Table

variable {σ κ : Type}

/-- Something done at the table, which may stop the game there. -/
abbrev Step (σ κ : Type) := Table σ κ → Except TableError Unit × Table σ κ

def stay : Step σ κ := fun table => (.ok (), table)

/-- One step and then another, unless the first stops the game. -/
def andThen (first second : Step σ κ) : Step σ κ := fun table =>
  match first table with
  | (.ok (), table) => second table
  | (.error error, table) => (.error error, table)

def opened (session : Session σ κ) (limit : Option Nat) : Table σ κ :=
  { session, pending := [], transcript := [], room := limit }

/-- Adds an entry of a number of bytes to the transcript. -/
def writeBytes (entry : Entry) (bytes : Nat) : Step σ κ := fun table =>
  let table := { table with transcript := entry :: table.transcript }
  match table.room with
  | none => (.ok (), table)
  | some room =>
    if bytes ≤ room then (.ok (), { table with room := some (room - bytes) })
    else (.error .screenClosed, { table with room := some 0 })

/-- Writes an entry with the end of its line; one without text is only noted. -/
def writeEntry (entry : Entry) : Step σ κ := fun table =>
  match entry.text? table.session.game.content.catalog with
  | some text => writeBytes entry (text.utf8ByteSize + 1) table
  | none => writeBytes entry 0 table

def writeEntries : List Entry → Step σ κ
  | [] => stay
  | entry :: entries => andThen (writeEntry entry) (writeEntries entries)

def writeLines (lines : List String) : Step σ κ :=
  writeEntries (lines.map Entry.line)

/-- Reports the events that are not reported yet. -/
def report : Step σ κ := fun table =>
  writeEntries (table.pending.map Entry.event) { table with pending := [] }

/-- Shows how the game stands. -/
def showView (style : Style) : Step σ κ := fun table =>
  writeLines (viewLines style table.session.game.view) table

/-- The journal with a line added. -/
def withNote (journal text : String) : String :=
  if journal.isEmpty then text else journal ++ "\n" ++ text

/-- Performs an action of the session.  An accepted one is followed by `after`;
a refused one is answered with a warning. -/
def act {α : Type} (style : Style)
    (action : Session σ κ → Outcome SessionError α (Session σ κ)) (after : Step σ κ) :
    Step σ κ := fun table =>
  let outcome := action table.session
  let table :=
    { table with session := outcome.after, pending := table.pending ++ outcome.events }
  match outcome.answer with
  | .ok _ => after table
  | .error error => writeLines [style.warning error.message] table

/-- Saves the journal by one of the session's ways of doing so. -/
def saveJournal (flush : Session σ κ → Outcome SessionError Bool (Session σ κ)) :
    Step σ κ := fun table =>
  let outcome := flush table.session
  let table :=
    { table with session := outcome.after, pending := table.pending ++ outcome.events }
  match outcome.answer with
  | .ok _ => (.ok (), table)
  | .error error => (.error (.journalNotSaved error), table)

variable [SaveSlot κ] [RandomSource σ]

/-- Performs a command. -/
def perform (setting : Setting) (now : Nat) : Command → Step σ κ
  | .roll => act setting.style Session.roll report
  | .draw => act setting.style Session.draw (andThen report (showView setting.style))
  | .resolve => act setting.style Session.resolve (andThen report (showView setting.style))
  | .tokens delta => act setting.style (Session.adjustTokens delta) stay
  | .note text => fun table =>
    (.ok (), { table with
      session := table.session.edit (withNote table.session.game.journal text) now })
  | .journal => fun table =>
    let journal := table.session.game.journal
    writeLines (if journal.isEmpty then ["(the journal is empty)"] else Text.lines journal)
      table
  | .status => showView setting.style
  | .history => fun table => writeLines (historyLines table.session.game.view) table
  | .story =>
    writeLines (Text.lines (setting.story.getD "(this game has no introduction)"))
  | .restart => act setting.style Session.restart (andThen report (showView setting.style))
  | .help => writeLines Command.helpLines
  | .quit => stay

/-- Deals with a command other than quit: performs it, saves a settled journal
and reports what happened. -/
def pass (setting : Setting) (moments : Moments) (command : Command) : Step σ κ :=
  andThen (perform setting moments.edit command)
    (andThen (saveJournal (Session.flush moments.flush)) report)

/-- What a line leads to: going on, or leaving the table. -/
def takeLine (setting : Setting) (moments : Moments) (line : Option String)
    (table : Table σ κ) : Except TableError Bool × Table σ κ :=
  match line.map Command.parse with
  | none => (.error .unreadableLine, table)
  | some (.error error) =>
    match writeLines [setting.style.warning error.message] table with
    | (answer, table) => (answer.map (fun _ => true), table)
  | some (.ok none) => (.ok true, table)
  | some (.ok (some .quit)) => (.ok false, table)
  | some (.ok (some command)) =>
    match pass setting moments command table with
    | (answer, table) => (answer.map (fun _ => true), table)

/-- Shows how the game stands before the first command. -/
def greet (setting : Setting) : Step σ κ :=
  andThen report
    (andThen (showView setting.style) (writeLines ["type 'help' for commands"]))

/-- Saves the journal and takes leave. -/
def leave (setting : Setting) : Step σ κ :=
  andThen (saveJournal Session.flushNow)
    (andThen report (writeLines [setting.style.info "game saved"]))

/-- Deals with lines, each with its moments, until one leaves the table or none
is left, and then takes leave. -/
def takeLines (setting : Setting) : List (Moments × Option String) → Step σ κ
  | [], table => leave setting table
  | (moments, line) :: lines, table =>
    match takeLine setting moments line table with
    | (.ok true, table) => takeLines setting lines table
    | (.ok false, table) => leave setting table
    | (.error error, table) => (.error error, table)

/-- A whole game at the table. -/
def play (setting : Setting) (lines : List (Moments × Option String)) : Step σ κ :=
  andThen (greet setting) (takeLines setting lines)

end Table

/-- The text of a transcript whose latest entry comes first. -/
def transcriptText (catalog : Catalog) (transcript : List Entry) : String :=
  String.join
    ((transcript.reverse.filterMap (Entry.text? catalog)).map (fun text => text ++ "\n"))

end SoloJournal.Terminal
