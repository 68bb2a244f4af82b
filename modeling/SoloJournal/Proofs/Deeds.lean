import SoloJournal.Proofs.Refusals
import SoloJournal.Proofs.Slots

/-!
# What a session asks of its slot

`Session.requests` says which calls each deed of a session makes on the slot:
a game is saved as it is after the deed, a new deal clears the slot first, and
a call that fails is the last one.  `Does` lists all that a deed can come to;
later facts about sessions are case analyses on `does_perform`.
-/

namespace SoloJournal

/-! ## Requests -/

/-- A call on a slot that may change what it holds. -/
inductive Request where
  | save (saved : SavedGame)
  | clear
  deriving DecidableEq

namespace Request

variable {κ : Type} [SaveSlot κ]

def call : Request → κ → Except SaveError Unit × κ
  | save saved => SaveSlot.save saved
  | clear => SaveSlot.clear

/-- What is kept once the request is granted. -/
def kept : Request → Option SavedGame
  | save saved => some saved
  | clear => none

/-- Makes requests in turn up to the first that fails; gives those that were
granted, and the slot after them. -/
def carryOut (slot : κ) : List Request → List Request × κ
  | [] => ([], slot)
  | request :: requests =>
    match request.call slot with
    | (.ok (), slot) =>
      let (granted, slot) := carryOut slot requests
      (request :: granted, slot)
    | (.error _, slot) => ([], slot)

end Request

/-- What is kept after granted requests, where something was kept before. -/
def keptAfter (kept : Option SavedGame) (granted : List Request) :
    Option SavedGame :=
  granted.foldl (fun _ request => request.kept) kept

theorem keptAfter_append (kept : Option SavedGame)
    (front back : List Request) :
    keptAfter kept (front ++ back) = keptAfter (keptAfter kept front) back :=
  List.foldl_append

/-! ## Deeds -/

/-- What can be asked of a session. -/
inductive Deed where
  | roll
  | draw
  | resolve
  | adjustTokens (delta : Int64)
  | restart
  | edit (text : String) (now : Nat)
  | flush (now : Nat)
  | flushNow
  deriving DecidableEq

namespace Deed

/-- The move of a deed that the game may refuse. -/
def action? : Deed → Option Move
  | roll => some .roll
  | draw => some .draw
  | resolve => some .resolve
  | adjustTokens delta => some (.adjustTokens delta)
  | restart | edit _ _ | flush _ | flushNow => none

def move? : Deed → Option Move
  | restart => some .restart
  | edit text _ => some (.write text)
  | deed => deed.action?

theorem isAction_of_action? {deed : Deed} {move : Move}
    (action : deed.action? = some move) : move.IsAction := by
  cases deed <;> cases action <;> trivial

theorem move?_of_action? {deed : Deed} {move : Move}
    (action : deed.action? = some move) : deed.move? = some move := by
  cases deed <;> cases action <;> rfl

end Deed

inductive DeedAnswer where
  | played (answer : MoveAnswer)
  | flushed (written : Bool)
  deriving DecidableEq

namespace Session

variable {σ κ : Type}

/-- Whether a flush has something to write; other deeds are no flushes. -/
def due? (session : Session σ κ) : Deed → Option Bool
  | .flush now => some (session.autosave.isDue now)
  | .flushNow => some session.autosave.isDirty
  | _ => none

theorem move?_of_due? {session : Session σ κ} {deed : Deed} {due : Bool}
    (flushes : session.due? deed = some due) : deed.move? = none := by
  cases deed <;> cases flushes <;> rfl

variable [SaveSlot κ]

theorem map_persisting {α β : Type} (convert : α → β) (answer : α)
    (events : List Event) (session : Session σ κ) :
    (persisting answer events session).map convert =
      persisting (convert answer) events session := by
  unfold persisting
  rcases session.persist with ⟨_ | _, after⟩ <;> rfl

theorem map_act {α β : Type} (convert : α → β)
    (action : Game σ → Outcome GameError α (Game σ)) (session : Session σ κ) :
    (session.act action).map convert =
      session.act fun game => (action game).map convert := by
  unfold act
  cases answered : (action session.game).answer with
  | error error => simp [answered, Outcome.map, Except.map, Outcome.refuse]
  | ok answer =>
      have mapped : ((action session.game).map convert).answer =
          .ok (convert answer) := by
        rw [Outcome.map, answered, Except.map]
      simp only [answered, mapped, map_persisting]
      rfl

variable [RandomSource σ]

def perform (session : Session σ κ) :
    Deed → Outcome SessionError DeedAnswer (Session σ κ)
  | .roll => (session.roll.map .rolled).map .played
  | .draw => (session.draw.map .drawn).map .played
  | .resolve => (session.resolve.map .resolved).map .played
  | .adjustTokens delta => ((session.adjustTokens delta).map .adjusted).map .played
  | .restart => session.restart.map fun _ => .played .done
  | .edit text now => .accept (.played .done) [] (session.edit text now)
  | .flush now => (session.flush now).map .flushed
  | .flushNow => session.flushNow.map .flushed

/-- The session after a list of deeds, whatever they come to. -/
def afterDeeds (session : Session σ κ) (deeds : List Deed) : Session σ κ :=
  deeds.foldl (fun session deed => (session.perform deed).after) session

def actionRequests (game : Game σ) (move : Move) : List Request :=
  match (game.perform move).answer with
  | .ok _ => [.save (game.perform move).after.saved]
  | .error _ => []

/-- The requests that a deed makes, each only if those before it are granted. -/
def requests (session : Session σ κ) : Deed → List Request
  | .roll => actionRequests session.game .roll
  | .draw => actionRequests session.game .draw
  | .resolve => actionRequests session.game .resolve
  | .adjustTokens delta => actionRequests session.game (.adjustTokens delta)
  | .restart => [.clear, .save session.game.restart.2.saved]
  | .edit _ _ => []
  | .flush now =>
      if session.autosave.isDue now then [.save session.game.saved] else []
  | .flushNow =>
      if session.autosave.isDirty then [.save session.game.saved] else []

/-- The requests of a deed that the slot grants. -/
def granted (session : Session σ κ) (deed : Deed) : List Request :=
  (Request.carryOut session.slot (session.requests deed)).1

/-- The requests that the slot grants in the course of a list of deeds. -/
def grantedAlong (session : Session σ κ) : List Deed → List Request
  | [] => []
  | deed :: deeds =>
      session.granted deed ++ (session.perform deed).after.grantedAlong deeds

theorem afterDeeds_append (session : Session σ κ) (front back : List Deed) :
    session.afterDeeds (front ++ back) =
      (session.afterDeeds front).afterDeeds back :=
  List.foldl_append

theorem grantedAlong_append (session : Session σ κ) (front back : List Deed) :
    session.grantedAlong (front ++ back) =
      session.grantedAlong front
        ++ (session.afterDeeds front).grantedAlong back := by
  induction front generalizing session with
  | nil => rfl
  | cons deed front induction =>
      rw [List.cons_append, grantedAlong, grantedAlong, induction,
        List.append_assoc]
      rfl

/-- A session is opened by going on with what is loaded, or by saving a new
game where nothing is. -/
theorem resumeOrStart_eq_ok {content : Content} {slot : κ} {source : σ}
    {session : Session σ κ}
    (opens : (resumeOrStart content slot source).answer = .ok session) :
    (∃ saved after, SaveSlot.load slot = (.ok (some saved), after) ∧
        Game.resume content saved source = .ok session.game ∧
        session.slot = after) ∨
      ∃ after, SaveSlot.load slot = (.ok none, after) ∧
        session.game = Game.start content source ∧
        SaveSlot.save session.game.saved after = (.ok (), session.slot) := by
  have possible := opens_resumeOrStart content slot source
  generalize resumeOrStart content slot source = outcome at opens possible
  cases possible with
  | resumed loads resumes =>
      cases opens
      exact .inl ⟨_, _, loads, resumes, rfl⟩
  | dealt loads saves =>
      cases opens
      exact .inr ⟨_, loads, rfl, saves⟩
  | _ => cases opens

/-- All that a deed can come to, with the requests that are granted and the
slot after them. -/
inductive Does (session : Session σ κ) : Deed → List Request × κ →
    Outcome SessionError DeedAnswer (Session σ κ) → Prop where
  | rejected {deed : Deed} {move : Move} {error : GameError} :
      deed.action? = some move →
      session.game.perform move = .refuse error session.game →
      Does session deed ([], session.slot) (.refuse (.game error) session)
  | played {deed : Deed} {move : Move} {answer : MoveAnswer} {slot : κ} :
      deed.action? = some move →
      (session.game.perform move).answer = .ok answer →
      SaveSlot.save (session.game.perform move).after.saved session.slot =
        (.ok (), slot) →
      Does session deed ([.save (session.game.perform move).after.saved], slot)
        (.accept (.played answer) (session.game.perform move).events
          { game := (session.game.perform move).after, slot
            autosave := session.autosave.markSaved })
  | unsaved {deed : Deed} {move : Move} {answer : MoveAnswer}
      {error : SaveError} {slot : κ} :
      deed.action? = some move →
      (session.game.perform move).answer = .ok answer →
      SaveSlot.save (session.game.perform move).after.saved session.slot =
        (.error error, slot) →
      Does session deed ([], slot)
        { answer := .error (.save error)
          events := (session.game.perform move).events
          after :=
            { session with game := (session.game.perform move).after, slot } }
  | uncleared {error : SaveError} {slot : κ} :
      SaveSlot.clear session.slot = (.error error, slot) →
      Does session .restart ([], slot)
        (.refuse (.save error) { session with slot })
  | dealt {cleared slot : κ} :
      SaveSlot.clear session.slot = (.ok (), cleared) →
      SaveSlot.save session.game.restart.2.saved cleared = (.ok (), slot) →
      Does session .restart
        ([.clear, .save session.game.restart.2.saved], slot)
        (.accept (.played .done) session.game.restart.1
          { game := session.game.restart.2, slot
            autosave := session.autosave.markSaved })
  | dealtUnsaved {cleared slot : κ} {error : SaveError} :
      SaveSlot.clear session.slot = (.ok (), cleared) →
      SaveSlot.save session.game.restart.2.saved cleared =
        (.error error, slot) →
      Does session .restart ([.clear], slot)
        { answer := .error (.save error), events := session.game.restart.1
          after := { session with game := session.game.restart.2, slot } }
  | edited {text : String} {now : Nat} :
      Does session (.edit text now) ([], session.slot)
        (.accept (.played .done) [] (session.edit text now))
  | waited {deed : Deed} :
      session.due? deed = some false →
      Does session deed ([], session.slot) (.accept (.flushed false) [] session)
  | flushed {deed : Deed} {slot : κ} :
      session.due? deed = some true →
      SaveSlot.save session.game.saved session.slot = (.ok (), slot) →
      Does session deed ([.save session.game.saved], slot)
        (.accept (.flushed true) [.journalSaved session.game.journal.length]
          { session with slot, autosave := session.autosave.markSaved })
  | unflushed {deed : Deed} {error : SaveError} {slot : κ} :
      session.due? deed = some true →
      SaveSlot.save session.game.saved session.slot = (.error error, slot) →
      Does session deed ([], slot)
        (.refuse (.save error) { session with slot })

theorem perform_of_action {session : Session σ κ} {deed : Deed} {move : Move}
    (action : deed.action? = some move) :
    session.perform deed =
      (session.act fun game => game.perform move).map .played := by
  cases deed <;> cases action <;>
    exact congrArg (Outcome.map DeedAnswer.played) (map_act _ _ session)

omit [SaveSlot κ] in
theorem requests_of_action {session : Session σ κ} {deed : Deed} {move : Move}
    (action : deed.action? = some move) :
    session.requests deed = actionRequests session.game move := by
  cases deed <;> cases action <;> rfl

theorem does_action {session : Session σ κ} {deed : Deed} {move : Move}
    (action : deed.action? = some move) :
    Does session deed
      (Request.carryOut session.slot (session.requests deed))
      (session.perform deed) := by
  rw [perform_of_action action, requests_of_action action]
  unfold act actionRequests
  cases answered : (session.game.perform move).answer with
  | error error =>
      -- the game has not changed, so neither has the session
      have refused := (Game.perform_eq_refuse answered).1
      simp only [answered]
      exact .rejected action refused
  | ok answer =>
      simp only [answered, map_persisting]
      unfold persisting persist
      simp only [Request.carryOut, Request.call]
      cases saved : SaveSlot.save (session.game.perform move).after.saved
          session.slot with
      | mk result slot =>
          cases result with
          | ok done => exact .played action answered saved
          | error error => exact .unsaved action answered saved

theorem does_restart (session : Session σ κ) :
    Does session .restart
      (Request.carryOut session.slot (session.requests .restart))
      (session.perform .restart) := by
  simp only [perform, restart, requests, Request.carryOut, Request.call]
  cases clears : SaveSlot.clear session.slot with
  | mk result cleared =>
      cases result with
      | error error => exact .uncleared clears
      | ok done =>
          simp only [map_persisting]
          unfold persisting persist
          simp only
          cases saved : SaveSlot.save session.game.restart.2.saved cleared with
          | mk result slot =>
              cases result with
              | ok done => exact .dealt clears saved
              | error error => exact .dealtUnsaved clears saved

theorem does_saveJournal {session : Session σ κ} {deed : Deed}
    (due : session.due? deed = some true) :
    Does session deed
      (Request.carryOut session.slot [.save session.game.saved])
      (session.saveJournal.map .flushed) := by
  unfold saveJournal persist
  simp only [Request.carryOut, Request.call]
  cases saved : SaveSlot.save session.game.saved session.slot with
  | mk result slot =>
      cases result with
      | ok done => exact .flushed due saved
      | error error => exact .unflushed due saved

theorem does_perform (session : Session σ κ) (deed : Deed) :
    Does session deed
      (Request.carryOut session.slot (session.requests deed))
      (session.perform deed) := by
  cases deed with
  | roll => exact does_action rfl
  | draw => exact does_action rfl
  | resolve => exact does_action rfl
  | adjustTokens delta => exact does_action rfl
  | restart => exact does_restart session
  | edit text now => exact .edited
  | flush now =>
      simp only [perform, flush, requests]
      split
      case isTrue due => exact does_saveJournal (congrArg some due)
      case isFalse waits => exact .waited (by simpa [due?] using waits)
  | flushNow =>
      simp only [perform, flushNow, requests]
      split
      case isTrue dirty => exact does_saveJournal (congrArg some dirty)
      case isFalse clean => exact .waited (by simpa [due?] using clean)

/-- A deed leaves its slot as its requests leave it. -/
theorem slot_perform (session : Session σ κ) (deed : Deed) :
    (session.perform deed).after.slot =
      (Request.carryOut session.slot (session.requests deed)).2 := by
  have does := does_perform session deed
  generalize session.perform deed = outcome at does
  generalize Request.carryOut session.slot (session.requests deed) = made at does
  cases does <;> rfl

/-- What a deed saves is the game as it is after the deed. -/
theorem saved_of_mem_granted {session : Session σ κ} {deed : Deed}
    {saved : SavedGame} (member : .save saved ∈ session.granted deed) :
    saved = (session.perform deed).after.game.saved := by
  have does := does_perform session deed
  unfold granted at member
  generalize session.perform deed = outcome at does
  generalize Request.carryOut session.slot (session.requests deed) = made
    at does member
  cases does <;> simp [Outcome.accept] at member ⊢ <;> exact member

end Session

end SoloJournal
