import SoloJournal.Card.Catalog
import SoloJournal.Play.History
import SoloJournal.Wire.Basic

/-!
# Wire forms of cards, prompts and histories
-/

namespace SoloJournal

instance : Wire Suit where
  write suit := .string suit.key
  read := Wire.readName Suit.key Suit.all

instance : Wire Rank where
  write rank := .string rank.key
  read := Wire.readName Rank.key Rank.all

instance : Wire Card where
  write card := .record [("suit", Wire.write card.suit), ("rank", Wire.write card.rank)]
  read value := do
    match ← value.fields? ["suit", "rank"] with
    | [suit, rank] => return { suit := ← Wire.required suit, rank := ← Wire.required rank }
    | _ => none

instance : Wire Prompt where
  write prompt := .record
    [("title", .string prompt.title), ("description", .string prompt.description),
      ("tokens", Wire.write prompt.tokens), ("blocks", Wire.write prompt.blocks)]
  read value := do
    match ← value.fields? ["title", "description", "tokens", "blocks"] with
    | [title, description, tokens, blocks] =>
      return {
        title := ← Wire.required title
        description := ← Wire.required description
        tokens := ← Wire.withDefault 0 tokens
        blocks := ← Wire.withDefault 0 blocks }
    | _ => none

/-- A history is a list of cards; a longer list is cut. -/
instance : Wire History where
  write history := Wire.write history.cards
  read value := (Wire.read value).map History.ofList

end SoloJournal
