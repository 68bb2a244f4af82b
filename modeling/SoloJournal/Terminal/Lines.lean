import SoloJournal.Authoring.Summary
import SoloJournal.Play.View
import SoloJournal.Terminal.Style

/-!
# Lines on the screen

Events, views, histories and summaries as lines of text.
-/

namespace SoloJournal.Terminal

/-- A whole number of any of the counters in decimal digits. -/
def count (number : Nat) : String :=
  Decimal.natText number

/-- A card with the title of its prompt, if it has one. -/
def titled (card : Card) (catalog : Catalog) : String :=
  match catalog.prompt? card with
  | some prompt => card.label ++ " " ++ prompt.title
  | none => card.label

/-- The line that reports an event.  The end of a game has none, because the
view shows it. -/
def eventLine? (catalog : Catalog) : Event → Option String
  | .dealt deck => some ("new game: " ++ count deck ++ " cards shuffled")
  | .resumed deck status =>
    some ("save restored: " ++ count deck ++ " cards left, " ++ status.key)
  | .reshuffled deck => some ("deck reshuffled: " ++ count deck ++ " cards")
  | .turnRolled number roll =>
    some ("turn " ++ count number.toNat ++ ": rolled " ++ count roll.toNat ++ ", play "
      ++ count roll.toNat ++ " card(s)")
  | .turnEnded number => some ("turn " ++ count number.toNat ++ " is over")
  | .drawn card remaining =>
    some ("drew " ++ titled card catalog ++ " (" ++ count remaining ++ " left)")
  | .applied card _ _ => some ("applied " ++ titled card catalog)
  | .tokensChanged change =>
    some ("tokens " ++ Decimal.intText change.before.toInt ++ " -> "
      ++ Decimal.intText change.after.toInt)
  | .pulled stability threshold rolls lost =>
    some ("pulled a block from " ++ count stability.toNat ++ ": rolled ["
      ++ " ".intercalate (rolls.map (fun face => count face.toNat)) ++ "] failing on <= "
      ++ count threshold.toNat ++ ", lost " ++ count lost.toNat)
  | .stabilityChanged change =>
    some ("stability " ++ count change.before.toNat ++ " -> " ++ count change.after.toNat)
  | .ended _ => none
  | .journalSaved chars => some ("journal saved (" ++ count chars ++ " chars)")

/-- The lines about the card in hand. -/
def pendingLines (style : Style) (pending : PendingView) : List String :=
  [style.bold (pending.card.label ++ " " ++ pending.prompt.title),
    "  " ++ pending.prompt.description,
    "  effects: tokens " ++ Decimal.signedText pending.prompt.tokens.toInt
      ++ ", block pulls " ++ count pending.prompt.blocks.toNat
      ++ "  (type 'apply' when done)"]

/-- The line about a turn that is not over. -/
def turnLines : Option TurnDie → List String
  | some turn =>
    if turn.inProgress then
      ["turn " ++ count turn.number.toNat ++ ": " ++ count turn.remaining.toNat ++ " of "
        ++ count turn.rolled.toNat ++ " card(s) left"]
    else []
  | none => []

def countersLine (style : Style) (view : GameView) : String :=
  view.tokensName ++ ": " ++ Decimal.intText view.tokens.toInt ++ "   "
    ++ view.stabilityName ++ ": " ++ count view.stability.toNat ++ "/"
    ++ count view.stabilityInitial.toNat ++ " " ++ style.band view.band ++ "   deck: "
    ++ count view.deckRemaining

/-- The lines about how a game ended. -/
def messageLines (style : Style) (view : GameView) : List String :=
  match view.message with
  | some message =>
    [if view.status.isWin then style.success message else style.error message,
      "type 'new' to start again"]
  | none => []

/-- The lines about the card in hand, or about there being none to play. -/
def handLines (style : Style) (view : GameView) : List String :=
  match view.pending, view.phase with
  | some pending, .cardRevealed => pendingLines style pending
  | _, _ =>
    if view.status = .active then ["no card in play (type 'roll' or 'draw')"] else []

def viewLines (style : Style) (view : GameView) : List String :=
  countersLine style view :: turnLines view.turn ++ handLines style view
    ++ messageLines style view

/-- A place in a list, set to the right of two columns. -/
def place (number : Nat) : String :=
  if number < 10 then " " ++ count number else count number

/-- The cards applied last, numbered. -/
def historyLines (view : GameView) : List String :=
  if view.history.isEmpty then ["no cards applied yet"]
  else
    view.history.zipIdx.map
      (fun (shown, index) =>
        place (index + 1) ++ ". " ++ shown.card.label ++ " " ++ shown.title)

/-- A line of its own for a value, if there is one. -/
def labelled (label : String) : Option String → List String
  | some value => [label ++ value]
  | none => []

def summaryLines (style : Style) (summary : Summary) : List String :=
  let rule := String.ofList (List.replicate 60 '=')
  let cards :=
    "Cards defined: " ++ count summary.cardsDefined ++ "/" ++ count summary.cardsExpected
  [rule, style.bold ("Game: " ++ summary.title)]
    ++ labelled "Subtitle: " summary.subtitle
    ++ ["Author: " ++ summary.author]
    ++ labelled "Version: " summary.version
    ++ (match summary.description with
      | some description => ["", Text.trim description]
      | none => [])
    ++ [rule, "", style.bold "Mechanics:"]
    ++ (if summary.systems.isEmpty then []
      else [style.bullet ("Systems: " ++ ", ".intercalate summary.systems)])
    ++ [style.bullet ("Tokens: " ++ summary.tokensName ++ " (start: "
          ++ Decimal.intText summary.tokensInitial.toInt ++ ")"),
        style.bullet ("Stability: " ++ summary.stabilityName ++ " (start: "
          ++ count summary.stabilityInitial.toNat ++ ", danger <= "
          ++ count summary.danger.toNat ++ ", critical <= "
          ++ count summary.critical.toNat ++ ")"),
        style.bullet ("Reshuffle on empty: " ++ if summary.reshuffle then "yes" else "no"),
        "",
        if summary.isComplete then style.success cards
        else style.warning (cards ++ " (incomplete)")]

end SoloJournal.Terminal
