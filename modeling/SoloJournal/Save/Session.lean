import SoloJournal.Play.Move
import SoloJournal.Save.Autosave
import SoloJournal.Save.Slot

/-!
# Sessions

A session is a game together with its save slot.  Every accepted action is
written to the slot before it is answered, a refused one writes nothing, and
edits of the journal are written once they have settled.
-/

namespace SoloJournal

inductive SessionError where
  | game (error : GameError)
  | save (error : SaveError)
  deriving DecidableEq

namespace SessionError

def message : SessionError → String
  | game error => error.message
  | save error => "save failed: " ++ error.message

/-- An error in words with its cause after it. -/
def chain : SessionError → String
  | game error => error.message
  | save error => "save failed: " ++ error.message ++ ": " ++ error.message

end SessionError

structure Session (σ κ : Type) where
  game : Game σ
  slot : κ
  autosave : Autosave

namespace Session

variable {σ κ : Type} [SaveSlot κ]

/-- Writes the game to the slot.  A game that is written has no unsaved edits. -/
def persist (session : Session σ κ) : Except SaveError Unit × Session σ κ :=
  match SaveSlot.save session.game.saved session.slot with
  | (.ok (), slot) => (.ok (), { session with slot, autosave := session.autosave.markSaved })
  | (.error error, slot) => (.error error, { session with slot })

/-- Writes the game and then answers. -/
def persisting {α : Type} (answer : α) (events : List Event) (session : Session σ κ) :
    Outcome SessionError α (Session σ κ) :=
  match session.persist with
  | (.ok (), session) => .accept answer events session
  | (.error error, session) => { answer := .error (.save error), events, after := session }

/-- Lets an action of the game happen and writes the game when it is accepted. -/
def act {α : Type} (action : Game σ → Outcome GameError α (Game σ))
    (session : Session σ κ) : Outcome SessionError α (Session σ κ) :=
  let outcome := action session.game
  match outcome.answer with
  | .error error => .refuse (.game error) session
  | .ok answer => persisting answer outcome.events { session with game := outcome.after }

def adjustTokens (delta : Int64) (session : Session σ κ) :
    Outcome SessionError (Change Int64) (Session σ κ) :=
  session.act (Game.adjustTokens delta)

/-- Replaces the journal; it is written by a later flush. -/
def edit (text : String) (now : Nat) (session : Session σ κ) : Session σ κ :=
  { session with
    game := session.game.write text
    autosave := session.autosave.noteEdit now }

/-- Writes the game for the sake of its journal. -/
def saveJournal (session : Session σ κ) : Outcome SessionError Bool (Session σ κ) :=
  match session.persist with
  | (.ok (), session) =>
    .accept true [.journalSaved session.game.journal.length] session
  | (.error error, session) => .refuse (.save error) session

/-- Writes unsaved edits that have settled, and says whether it did. -/
def flush (now : Nat) (session : Session σ κ) : Outcome SessionError Bool (Session σ κ) :=
  if session.autosave.isDue now then session.saveJournal else .accept false [] session

/-- Writes unsaved edits, settled or not, and says whether it did. -/
def flushNow (session : Session σ κ) : Outcome SessionError Bool (Session σ κ) :=
  if session.autosave.isDirty then session.saveJournal else .accept false [] session

variable [RandomSource σ]

/-- Goes on with the game in the slot, or deals a new one and writes it when
the slot is empty.  What the slot holds stays there when it cannot be gone on
with. -/
def resumeOrStart (content : Content) (slot : κ) (source : σ) :
    Outcome SessionError (Session σ κ) κ :=
  match SaveSlot.load slot with
  | (.error error, slot) => .refuse (.save error) slot
  | (.ok (some saved), slot) =>
    match Game.resume content saved source with
    | .error error => .refuse (.save error) slot
    | .ok game =>
      .accept { game, slot, autosave := Autosave.standard }
        [.resumed game.deck.remaining game.status] slot
  | (.ok none, slot) =>
    let game := Game.start content source
    match SaveSlot.save game.saved slot with
    | (.error error, slot) => .refuse (.save error) slot
    | (.ok (), slot) =>
      .accept { game, slot, autosave := Autosave.standard } [.dealt game.deck.remaining] slot

def roll (session : Session σ κ) : Outcome SessionError TurnDie (Session σ κ) :=
  session.act Game.roll

def draw (session : Session σ κ) : Outcome SessionError Card (Session σ κ) :=
  session.act Game.draw

def resolve (session : Session σ κ) : Outcome SessionError Applied (Session σ κ) :=
  session.act Game.resolve

/-- Empties the slot, deals a new game and writes it. -/
def restart (session : Session σ κ) : Outcome SessionError Unit (Session σ κ) :=
  match SaveSlot.clear session.slot with
  | (.error error, slot) => .refuse (.save error) { session with slot }
  | (.ok (), slot) =>
    let (events, game) := session.game.restart
    persisting () events { session with slot, game }

end Session

end SoloJournal
