import SoloJournal.Authoring.Reading
import SoloJournal.Card.Catalog

/-!
# Reading rulebooks and prompts

The records of a game's documents with their fields.
-/

namespace SoloJournal.Authoring

def readGameInfo : Reading GameInfo := fun value => do
  let entries ← readEntries "GameMeta"
    [.of "title" readText, .of "author" readText, .of "subtitle" (readOptional readText),
      .of "version" (readOptional readText), .of "description" (readOptional readText)] value
  return {
    title := ← required "title" readText entries
    author := ← required "author" readText entries
    subtitle := ← optional "subtitle" (readOptional readText) none entries
    version := ← optional "version" (readOptional readText) none entries
    description := ← optional "description" (readOptional readText) none entries }

def readTokenRule : Reading TokenRule := fun value => do
  let entries ← readEntries "TokenRule"
    [.of "name" readText, .of "initial" readInt64] value
  return {
    name := ← required "name" readText entries
    initial := ← required "initial" readInt64 entries }

def readThresholds : Reading Thresholds := fun value => do
  let entries ← readEntries "Thresholds"
    [.of "danger" readUInt32, .of "critical" readUInt32] value
  return {
    danger := ← required "danger" readUInt32 entries
    critical := ← required "critical" readUInt32 entries }

def readStabilityRule : Reading StabilityRule := fun value => do
  let entries ← readEntries "StabilityRule"
    [.of "name" readText, .of "initial" readUInt32, .of "thresholds" readThresholds] value
  return {
    name := ← required "name" readText entries
    initial := ← required "initial" readUInt32 entries
    thresholds := ← optional "thresholds" readThresholds .standard entries }

def readDeckRule : Reading DeckRule := fun value => do
  let entries ← readEntries "DeckRule" [.of "reshuffle" readTruth] value
  return { reshuffle := ← optional "reshuffle" readTruth false entries }

def readMechanics : Reading Mechanics := fun value => do
  let entries ← readEntries "Mechanics"
    [.of "systems" (readList readText), .of "tokens" readTokenRule,
      .of "stability" readStabilityRule, .of "deck" readDeckRule] value
  return {
    systems := ← optional "systems" (readList readText) [] entries
    tokens := ← required "tokens" readTokenRule entries
    stability := ← required "stability" readStabilityRule entries
    deck := ← optional "deck" readDeckRule { reshuffle := false } entries }

def readCondition : Reading Condition :=
  readChoice Condition.all Condition.key

def readEnding : Reading Ending := fun value => do
  let entries ← readEntries "ConditionDef"
    [.of "type" readCondition, .of "message" readText] value
  return {
    condition := ← required "type" readCondition entries
    message := ← required "message" readText entries }

def readEndings : Reading Endings := fun value => do
  let entries ← readEntries "Conditions"
    [.of "win" (readList readEnding), .of "lose" (readList readEnding)] value
  return {
    win := ← optional "win" (readList readEnding) [] entries
    lose := ← optional "lose" (readList readEnding) [] entries }

def readRulebook : Reading Rulebook := fun value => do
  let entries ← readEntries "GameConfig"
    [.of "game" readGameInfo, .of "mechanics" readMechanics,
      .of "conditions" readEndings] value
  return {
    game := ← required "game" readGameInfo entries
    mechanics := ← required "mechanics" readMechanics entries
    endings := ← optional "conditions" readEndings { win := [], lose := [] } entries }

def readPrompt : Reading Prompt := fun value => do
  let entries ← readEntries "CardDef"
    [.of "title" readText, .of "description" readText, .of "tokens" readInt64,
      .of "blocks" readUInt32] value
  return {
    title := ← required "title" readText entries
    description := ← required "description" readText entries
    tokens := ← optional "tokens" readInt64 0 entries
    blocks := ← optional "blocks" readUInt32 0 entries }

end SoloJournal.Authoring
