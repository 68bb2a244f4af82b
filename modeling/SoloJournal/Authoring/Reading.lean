import SoloJournal.Authoring.Mismatch

/-!
# Reading values as typed ones

Texts, truth values, numbers, lists, choices and records, read out of the
values of a document.  Tags are looked through, except before an absent value
and a choice.  The entries of a record are read in their order, and the first
one with a problem decides; whether a field is missing is only asked after
them.
-/

namespace SoloJournal.Authoring

/-- A way to read values. -/
abbrev Reading (α : Type) := Yaml.Value → Except Mismatch α

def readText : Reading String := fun value =>
  match value.untag with
  | .string text => .ok text
  | other => .error (.wrongType (.ofValue other) .text)

def readTruth : Reading Bool := fun value =>
  match value.untag with
  | .bool truth => .ok truth
  | other => .error (.wrongType (.ofValue other) .truth)

def readInt64 : Reading Int64 := fun value =>
  match value.untag with
  | .int number =>
    if Int64.minValue.toInt ≤ number ∧ number ≤ Int64.maxValue.toInt then .ok (.ofInt number)
    else .error (.outOfRange number .int64)
  | other => .error (.wrongType (.ofValue other) .int64)

def readUInt32 : Reading UInt32 := fun value =>
  match value.untag with
  | .int number =>
    if 0 ≤ number ∧ number < UInt32.size then .ok (.ofNat number.toNat)
    else .error (.outOfRange number .uint32)
  | other => .error (.wrongType (.ofValue other) .uint32)

/-- Reads a value that may be null. -/
def readOptional {α : Type} (read : Reading α) : Reading (Option α)
  | .null => .ok none
  | value => (read value).map some

/-- Reads a sequence; null counts as an empty one. -/
def readList {α : Type} (read : Reading α) : Reading (List α) := fun value =>
  match value.untag with
  | .sequence items => items.mapM read
  | .null => .ok []
  | other => .error (.wrongType (.ofValue other) .list)

/-- Reads the name of one of several things.  It may also be written as a tag
before nothing. -/
def readChoice {α : Type} (all : List α) (key : α → String) : Reading α := fun value =>
  let named (name : String) : Except Mismatch α :=
    match all.find? (fun thing => key thing == name) with
    | some thing => .ok thing
    | none => .error (.unknownChoice name (all.map key))
  match value with
  | .string name => named name
  | .tagged name content => do
    let thing ← named name
    match content with
    | .null => return thing
    | other => throw (.wrongType (.ofValue other) .nothing)
  | other => .error (.wrongType (.ofValue other) .choice)

/-! ## Records -/

/-- A field that a record may have. -/
structure Field where
  name : String
  /-- Whether a value can be read as what the field holds. -/
  check : Yaml.Value → Except Mismatch Unit

namespace Field

/-- The field that is read in a given way. -/
def of {α : Type} (name : String) (read : Reading α) : Field :=
  { name, check := fun value => (read value).map (fun _ => ()) }

end Field

/-- Reads the name of a field. -/
def readFieldName (key : Yaml.Value) : Except Mismatch String :=
  match key.untag with
  | .string name => .ok name
  | other => .error (.wrongType (.ofValue other) .fieldName)

/-- Checks the entries of a record.  Each field may come only once, and other
entries may hold anything. -/
def checkEntries (fields : List Field) :
    (seen : List String) → List (Yaml.Value × Yaml.Value) → Except Mismatch Unit
  | _, [] => .ok ()
  | seen, (key, value) :: entries => do
    let name ← readFieldName key
    match fields.find? (fun field => field.name == name) with
    | none => checkEntries fields seen entries
    | some field =>
      if seen.contains name then throw (.repeatedField name)
      field.check value
      checkEntries fields (name :: seen) entries

/-- The entries of a record by name, checked; null counts as a record without
entries. -/
def readEntries (record : String) (fields : List Field) :
    Reading (List (Yaml.Value × Yaml.Value)) := fun value =>
  match value.untag with
  | .mapping entries => (checkEntries fields [] entries).map (fun _ => entries)
  | .null => .ok []
  | other => .error (.wrongType (.ofValue other) (.record record))

/-- The value of a field. -/
def fieldValue? (name : String) (entries : List (Yaml.Value × Yaml.Value)) :
    Option Yaml.Value :=
  (entries.find? (fun entry => entry.1.untag.isText name)).map Prod.snd

/-- Reads a field that must be there. -/
def required {α : Type} (name : String) (read : Reading α)
    (entries : List (Yaml.Value × Yaml.Value)) : Except Mismatch α :=
  match fieldValue? name entries with
  | some value => read value
  | none => .error (.missingField name)

/-- Reads a field that has a standard content. -/
def optional {α : Type} (name : String) (read : Reading α) (standard : α)
    (entries : List (Yaml.Value × Yaml.Value)) : Except Mismatch α :=
  match fieldValue? name entries with
  | some value => read value
  | none => .ok standard

end SoloJournal.Authoring
