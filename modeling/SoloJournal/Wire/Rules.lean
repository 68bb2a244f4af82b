import SoloJournal.Rules.Rulebook
import SoloJournal.Wire.Basic

/-!
# Wire forms of rulebooks
-/

namespace SoloJournal

instance : Wire GameInfo where
  write info := .record
    [("title", .string info.title), ("author", .string info.author),
      ("subtitle", Wire.write info.subtitle), ("version", Wire.write info.version),
      ("description", Wire.write info.description)]
  read value := do
    match ← value.fields? ["title", "author", "subtitle", "version", "description"] with
    | [title, author, subtitle, version, description] =>
      return {
        title := ← Wire.required title
        author := ← Wire.required author
        subtitle := ← Wire.withDefault none subtitle
        version := ← Wire.withDefault none version
        description := ← Wire.withDefault none description }
    | _ => none

instance : Wire TokenRule where
  write rule := .record [("name", .string rule.name), ("initial", Wire.write rule.initial)]
  read value := do
    match ← value.fields? ["name", "initial"] with
    | [name, initial] =>
      return { name := ← Wire.required name, initial := ← Wire.required initial }
    | _ => none

instance : Wire Thresholds where
  write thresholds := .record
    [("danger", Wire.write thresholds.danger), ("critical", Wire.write thresholds.critical)]
  read value := do
    match ← value.fields? ["danger", "critical"] with
    | [danger, critical] =>
      return { danger := ← Wire.required danger, critical := ← Wire.required critical }
    | _ => none

instance : Wire StabilityRule where
  write rule := .record
    [("name", .string rule.name), ("initial", Wire.write rule.initial),
      ("thresholds", Wire.write rule.thresholds)]
  read value := do
    match ← value.fields? ["name", "initial", "thresholds"] with
    | [name, initial, thresholds] =>
      return {
        name := ← Wire.required name
        initial := ← Wire.required initial
        thresholds := ← Wire.withDefault Thresholds.standard thresholds }
    | _ => none

instance : Wire DeckRule where
  write rule := .record [("reshuffle", .bool rule.reshuffle)]
  read value := do
    match ← value.fields? ["reshuffle"] with
    | [reshuffle] => return { reshuffle := ← Wire.withDefault false reshuffle }
    | _ => none

instance : Wire Mechanics where
  write mechanics := .record
    [("systems", Wire.write mechanics.systems), ("tokens", Wire.write mechanics.tokens),
      ("stability", Wire.write mechanics.stability), ("deck", Wire.write mechanics.deck)]
  read value := do
    match ← value.fields? ["systems", "tokens", "stability", "deck"] with
    | [systems, tokens, stability, deck] =>
      return {
        systems := ← Wire.withDefault [] systems
        tokens := ← Wire.required tokens
        stability := ← Wire.required stability
        deck := ← Wire.withDefault { reshuffle := false } deck }
    | _ => none

instance : Wire Condition where
  write condition := .string condition.key
  read := Wire.readName Condition.key Condition.all

instance : Wire Ending where
  write ending := .record
    [("type", Wire.write ending.condition), ("message", .string ending.message)]
  read value := do
    match ← value.fields? ["type", "message"] with
    | [condition, message] =>
      return { condition := ← Wire.required condition, message := ← Wire.required message }
    | _ => none

instance : Wire Endings where
  write endings := .record [("win", Wire.write endings.win), ("lose", Wire.write endings.lose)]
  read value := do
    match ← value.fields? ["win", "lose"] with
    | [win, lose] =>
      return { win := ← Wire.withDefault [] win, lose := ← Wire.withDefault [] lose }
    | _ => none

instance : Wire Rulebook where
  write rules := .record
    [("game", Wire.write rules.game), ("mechanics", Wire.write rules.mechanics),
      ("conditions", Wire.write rules.endings)]
  read value := do
    match ← value.fields? ["game", "mechanics", "conditions"] with
    | [game, mechanics, endings] =>
      return {
        game := ← Wire.required game
        mechanics := ← Wire.required mechanics
        endings := ← Wire.withDefault { win := [], lose := [] } endings }
    | _ => none

end SoloJournal
