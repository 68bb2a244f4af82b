import SoloJournal.Proofs.Wire.Laws
import SoloJournal.Wire.Play

/-!
# Wire forms of cards and play

Cards, histories, statuses, turns and counters are read back as they were
written.  A history is written as a bare list, which is short enough not to be
cut.
-/

namespace SoloJournal

open Json (bind_fields?_record plain_record)

instance : LawfulWire Suit where
  read_write suit := Wire.readName_key (by decide) (Suit.mem_all suit)
  plain_write _ := trivial

instance : LawfulWire Rank where
  read_write rank := Wire.readName_key (by decide) (Rank.mem_all rank)
  plain_write _ := trivial

instance : LawfulWire Status where
  read_write status := by
    refine Wire.readName_key (by decide) ?_
    cases status <;> decide
  plain_write _ := trivial

instance : LawfulWire Band where
  read_write band := by
    refine Wire.readName_key (by decide) ?_
    cases band <;> decide
  plain_write _ := trivial

instance : LawfulWire Card where
  read_write card := by
    apply (bind_fields?_record ["suit", "rank"]
      [Wire.write card.suit, Wire.write card.rank]
      (by decide) rfl _).trans
    simp
  plain_write card := by
    apply plain_record
    simp

instance : PresentWire Card where
  write_ne_null _ := Json.noConfusion

instance : LawfulWire History where
  read_write history := by
    show (Wire.read (Wire.write history.cards)).map History.ofList = some history
    rw [LawfulWire.read_write, Option.map_some, History.ofList_cards]
  plain_write history := LawfulWire.plain_write history.cards

instance : LawfulWire TurnDie where
  read_write turn := by
    apply (bind_fields?_record ["number", "rolled", "remaining"]
      [Wire.write turn.number, Wire.write turn.rolled,
        Wire.write turn.remaining]
      (by decide) rfl _).trans
    simp
  plain_write turn := by
    apply plain_record
    simp

instance : PresentWire TurnDie where
  write_ne_null _ := Json.noConfusion

instance : LawfulWire Ledger where
  read_write ledger := by
    apply (bind_fields?_record ["tokens", "stability"]
      [Wire.write ledger.tokens, Wire.write ledger.stability]
      (by decide) rfl _).trans
    simp
  plain_write ledger := by
    apply plain_record
    simp

instance {α : Type} [Wire α] [LawfulWire α] : LawfulWire (Change α) where
  read_write change := by
    apply (bind_fields?_record ["from", "to"]
      [Wire.write change.before, Wire.write change.after]
      (by decide) rfl _).trans
    simp
  plain_write change := by
    apply plain_record
    simp

end SoloJournal
