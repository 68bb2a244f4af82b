/-!
# Lines

A line ends at a line feed.  A carriage return directly before that line feed
belongs to the line's end; any other carriage return is part of its text.  The
rule is the same for characters and for bytes.
-/

namespace SoloJournal.Text

/-- The line whose symbols, latest first, are given, without one carriage
return at its end. -/
def endedLine {symbol : Type} [DecidableEq symbol] (carriage : symbol) :
    List symbol → List symbol
  | [] => []
  | last :: rest => if last = carriage then rest.reverse else (last :: rest).reverse

/-- Cuts symbols into lines; `line` holds the current line, latest first. -/
def cutLines {symbol : Type} [DecidableEq symbol] (feed carriage : symbol)
    (line : List symbol) : List symbol → List (List symbol)
  | [] => if line.isEmpty then [] else [line.reverse]
  | next :: rest =>
    if next = feed then endedLine carriage line :: cutLines feed carriage [] rest
    else cutLines feed carriage (next :: line) rest

/-- The lines of a text, without their ends.  A text that ends in a line feed
has no further line after it. -/
def lines (text : String) : List String :=
  (cutLines '\n' '\r' [] text.toList).map String.ofList

/-- The lines of an input, each with its text, or without one where its bytes
are not UTF-8. -/
def inputLines (input : ByteArray) : List (Option String) :=
  (cutLines 10 13 [] input.toList).map (fun line => String.fromUTF8? ⟨line.toArray⟩)

end SoloJournal.Text
