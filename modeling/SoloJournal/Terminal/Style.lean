import SoloJournal.Play.Tower

/-!
# Colours

Marks and headings are painted by terminal sequences, or left plain.
-/

namespace SoloJournal.Terminal

inductive Paint where
  | green
  | blue
  | cyan
  | yellow
  | red
  | bold
  deriving DecidableEq

namespace Paint

/-- The sequence that begins a paint. -/
def opening : Paint → String
  | green => "\x1b[92m"
  | blue => "\x1b[94m"
  | cyan => "\x1b[96m"
  | yellow => "\x1b[93m"
  | red => "\x1b[91m"
  | bold => "\x1b[1m"

/-- The sequence that ends every paint. -/
def closing : String := "\x1b[0m"

end Paint

/-- Whether a terminal is painted. -/
structure Style where
  color : Bool
  deriving DecidableEq

namespace Style

def plain : Style := { color := false }

def paint (style : Style) (paint : Paint) (text : String) : String :=
  if style.color then paint.opening ++ text ++ Paint.closing else text

def success (style : Style) (text : String) : String :=
  style.paint .green "✓" ++ " " ++ text

def error (style : Style) (text : String) : String :=
  style.paint .red "✗" ++ " " ++ text

def info (style : Style) (text : String) : String :=
  style.paint .blue "ℹ" ++ " " ++ text

def warning (style : Style) (text : String) : String :=
  style.paint .yellow "⚠" ++ " " ++ text

def bullet (style : Style) (text : String) : String :=
  "  " ++ style.paint .cyan "•" ++ " " ++ text

def bold (style : Style) (text : String) : String :=
  style.paint .bold text

/-- The paint of a band. -/
def bandPaint : Band → Paint
  | .safe => .green
  | .danger => .yellow
  | .critical => .red

/-- The name of a band in brackets. -/
def bandText : Band → String
  | .safe => "[safe]"
  | .danger => "[danger]"
  | .critical => "[critical]"

def band (style : Style) (band : Band) : String :=
  style.paint (bandPaint band) (bandText band)

end Style

end SoloJournal.Terminal
