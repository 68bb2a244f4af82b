import SoloJournal.Number.Binary64

/-!
# YAML values

What a YAML document says, without its spelling.  A mapping keeps its entries
in order; no two of its keys are the same.
-/

namespace SoloJournal.Yaml

inductive Value where
  | null
  | bool (value : Bool)
  | int (value : Int)
  | float (value : Binary64)
  | string (text : String)
  | sequence (items : List Value)
  | mapping (entries : List (Value × Value))
  /-- A value with a tag of its own, which is given without its mark. -/
  | tagged (tag : String) (value : Value)
  deriving Inhabited

namespace Value

/-- The value under any tags. -/
def untag : Value → Value
  | tagged _ value => value.untag
  | value => value

mutual

/-- Whether two values say the same.  The order of the entries of a mapping
does not matter, and neither does the sign of a zero. -/
def same : Value → Value → Bool
  | null, null => true
  | bool left, bool right => left == right
  | int left, int right => left == right
  | float left, float right => Binary64.sameValue left right
  | string left, string right => left == right
  | sequence left, sequence right => sameItems left right
  | mapping left, mapping right =>
    left.length == right.length && sameEntries left right
  | tagged leftTag left, tagged rightTag right => leftTag == rightTag && same left right
  | _, _ => false

def sameItems : List Value → List Value → Bool
  | [], [] => true
  | left :: lefts, right :: rights => same left right && sameItems lefts rights
  | _, _ => false

/-- Whether every entry on the left is found on the right. -/
def sameEntries : List (Value × Value) → List (Value × Value) → Bool
  | [], _ => true
  | (key, value) :: entries, others =>
    others.any (fun other => same key other.1 && same value other.2)
      && sameEntries entries others

end

/-- The entries of a mapping, looked for under any tags. -/
def entries? (value : Value) : Option (List (Value × Value)) :=
  match value.untag with
  | mapping entries => some entries
  | _ => none

def isMapping (value : Value) : Bool :=
  value.entries?.isSome

/-- Whether a key is exactly the given text. -/
def isText (name : String) : Value → Bool
  | string text => text == name
  | _ => false

/-- The value of an entry of a mapping whose key is a text. -/
def get? (name : String) (value : Value) : Option Value := do
  let entries ← value.entries?
  let entry ← entries.find? (fun entry => isText name entry.1)
  return entry.2

/-- The whole number under any tags. -/
def int? (value : Value) : Option Int :=
  match value.untag with
  | int number => some number
  | _ => none

end Value

end SoloJournal.Yaml
