import SoloJournal.Play.View
import SoloJournal.Wire.Play

/-!
# Wire forms of views

Views are only ever written.
-/

namespace SoloJournal

namespace CardView

def toJson (view : CardView) : Json :=
  .record [("id", Wire.write view.card), ("title", .string view.title)]

end CardView

namespace PendingView

def toJson (view : PendingView) : Json :=
  .record
    [("id", Wire.write view.card), ("title", .string view.prompt.title),
      ("description", .string view.prompt.description),
      ("token_delta", Wire.write view.prompt.tokens),
      ("blocks", Wire.write view.prompt.blocks)]

end PendingView

namespace GameView

def toJson (view : GameView) : Json :=
  .record
    [("tokens_name", .string view.tokensName), ("tokens", Wire.write view.tokens),
      ("stability_name", .string view.stabilityName),
      ("stability", Wire.write view.stability),
      ("stability_initial", Wire.write view.stabilityInitial),
      ("risk", Wire.write view.band), ("deck_remaining", Wire.write view.deckRemaining),
      ("phase", .string view.phase.key), ("turn", Wire.write view.turn),
      ("pending", (view.pending.map PendingView.toJson).getD .null),
      ("history", .array (view.history.map CardView.toJson)),
      ("status", Wire.write view.status), ("message", Wire.write view.message)]

end GameView

end SoloJournal
