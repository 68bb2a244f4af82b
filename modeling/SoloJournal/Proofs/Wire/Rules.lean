import SoloJournal.Proofs.Wire.Laws
import SoloJournal.Wire.Cards
import SoloJournal.Wire.Rules

/-!
# Wire forms of content

Rulebooks and prompts are read back as they were written, so that two of them
with the same text are the same.
-/

namespace SoloJournal

open Json (bind_fields?_record plain_record)

instance : PresentWire String where
  write_ne_null _ := Json.noConfusion

instance : LawfulWire GameInfo where
  read_write info := by
    apply (bind_fields?_record
      ["title", "author", "subtitle", "version", "description"]
      [Wire.write info.title, Wire.write info.author, Wire.write info.subtitle,
        Wire.write info.version, Wire.write info.description]
      (by decide) rfl _).trans
    simp
  plain_write info := by
    apply plain_record
    simp [Json.Plain]

instance : LawfulWire TokenRule where
  read_write rule := by
    apply (bind_fields?_record ["name", "initial"]
      [Wire.write rule.name, Wire.write rule.initial]
      (by decide) rfl _).trans
    simp
  plain_write rule := by
    apply plain_record
    simp [Json.Plain]

instance : LawfulWire Thresholds where
  read_write thresholds := by
    apply (bind_fields?_record ["danger", "critical"]
      [Wire.write thresholds.danger, Wire.write thresholds.critical]
      (by decide) rfl _).trans
    simp
  plain_write thresholds := by
    apply plain_record
    simp

instance : LawfulWire StabilityRule where
  read_write rule := by
    apply (bind_fields?_record ["name", "initial", "thresholds"]
      [Wire.write rule.name, Wire.write rule.initial,
        Wire.write rule.thresholds]
      (by decide) rfl _).trans
    simp
  plain_write rule := by
    apply plain_record
    simp [Json.Plain]

instance : LawfulWire DeckRule where
  read_write rule := by
    apply (bind_fields?_record ["reshuffle"]
      [Wire.write rule.reshuffle]
      (by decide) rfl _).trans
    simp
  plain_write rule := by
    apply plain_record
    simp [Json.Plain]

instance : LawfulWire Mechanics where
  read_write mechanics := by
    apply (bind_fields?_record ["systems", "tokens", "stability", "deck"]
      [Wire.write mechanics.systems, Wire.write mechanics.tokens,
        Wire.write mechanics.stability, Wire.write mechanics.deck]
      (by decide) rfl _).trans
    simp
  plain_write mechanics := by
    apply plain_record
    simp

instance : LawfulWire Condition where
  read_write condition := by
    apply Wire.readName_key (by decide)
    cases condition <;> decide
  plain_write _ := trivial

instance : LawfulWire Ending where
  read_write ending := by
    apply (bind_fields?_record ["type", "message"]
      [Wire.write ending.condition, Wire.write ending.message]
      (by decide) rfl _).trans
    simp
  plain_write ending := by
    apply plain_record
    simp [Json.Plain]

instance : LawfulWire Endings where
  read_write endings := by
    apply (bind_fields?_record ["win", "lose"]
      [Wire.write endings.win, Wire.write endings.lose]
      (by decide) rfl _).trans
    simp
  plain_write endings := by
    apply plain_record
    simp

instance : LawfulWire Rulebook where
  read_write rules := by
    apply (bind_fields?_record ["game", "mechanics", "conditions"]
      [Wire.write rules.game, Wire.write rules.mechanics,
        Wire.write rules.endings]
      (by decide) rfl _).trans
    simp
  plain_write rules := by
    apply plain_record
    simp

instance : LawfulWire Prompt where
  read_write prompt := by
    apply (bind_fields?_record ["title", "description", "tokens", "blocks"]
      [Wire.write prompt.title, Wire.write prompt.description,
        Wire.write prompt.tokens, Wire.write prompt.blocks]
      (by decide) rfl _).trans
    simp
  plain_write prompt := by
    apply plain_record
    simp [Json.Plain]

end SoloJournal
