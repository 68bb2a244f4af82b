import SoloJournal.Json.Basic

/-!
# Wire forms

A type with a wire form is written as a JSON value and read back from one.  A
record is written as an object with its fields in order.  It is read from an
object, whose unknown members are passed over, or from an array with its fields
in order; a field may be left out where it has a default.
-/

namespace SoloJournal

/-- A type that is written as JSON and read back. -/
class Wire (α : Type) where
  write : α → Json
  read : Json → Option α

namespace Json

/-- Takes note of one member of an object when it is one of the named fields.
A name that is no text and a second value for a field are refused. -/
def noteField (names : List String) (found : List (String × Json)) :
    Option String × Json → Option (List (String × Json))
  | (none, _) => none
  | (some name, value) =>
    if names.contains name then
      if found.any (fun field => field.1 == name) then none
      else some ((name, value) :: found)
    else some found

/-- The values of the named fields of a record, in the order of the names. -/
def fields? (names : List String) : Json → Option (List (Option Json))
  | object members => do
    let found ← members.foldlM (noteField names) []
    return names.map (fun name => List.lookup name found)
  | array items =>
    if items.length ≤ names.length then
      some (items.map some ++ List.replicate (names.length - items.length) none)
    else none
  | _ => none

end Json

namespace Wire

/-- The value of a field that must be there. -/
def required {α : Type} [Wire α] (field : Option Json) : Option α :=
  field.bind read

/-- The value of a field, or a default where it is left out. -/
def withDefault {α : Type} [Wire α] (default : α) : Option Json → Option α
  | some value => read value
  | none => some default

/-- Reads one of several named values: its name, or an object whose only member
has that name and no value. -/
def readName {α : Type} (key : α → String) (choices : List α) : Json → Option α
  | .string text => choices.find? (fun choice => key choice == text)
  | .object [(some text, .null)] => choices.find? (fun choice => key choice == text)
  | _ => none

instance : Wire Bool where
  write := .bool
  read
    | .bool value => some value
    | _ => none

instance : Wire String where
  write := .string
  read
    | .string text => some text
    | _ => none

instance : Wire Int64 where
  write number := .int number.toInt
  read
    | .int value =>
      if Int64.minValue.toInt ≤ value ∧ value ≤ Int64.maxValue.toInt then
        some (Int64.ofInt value)
      else none
    | _ => none

/-- Reads a natural number below a bound. -/
def readBelow (bound : Nat) : Json → Option Nat
  | .int (.ofNat value) => if value < bound then some value else none
  | _ => none

instance : Wire UInt32 where
  write number := .int number.toNat
  read value := (readBelow UInt32.size value).map UInt32.ofNat

instance : Wire UInt8 where
  write number := .int number.toNat
  read value := (readBelow UInt8.size value).map UInt8.ofNat

/-- A count, which fits into 64 bits on the wire. -/
instance : Wire Nat where
  write number := .int number
  read := readBelow UInt64.size

instance {α : Type} [Wire α] : Wire (Option α) where
  write
    | some value => write value
    | none => .null
  read
    | .null => some none
    | value => (read value).map some

instance {α : Type} [Wire α] : Wire (List α) where
  write items := .array (items.map write)
  read
    | .array items => items.mapM read
    | _ => none

end Wire

end SoloJournal
