import SoloJournal.Number.Shortest
import SoloJournal.Rules.Rulebook
import SoloJournal.Text.Quote
import SoloJournal.Yaml.Value

/-!
# Values of a wrong type

What can be wrong when a value of a document is read as something of a known
type, and the words for it.
-/

namespace SoloJournal.Authoring

/-- What a value is read as. -/
inductive Expected where
  | text
  | truth
  | int64
  | uint32
  | list
  | record (name : String)
  | fieldName
  | choice
  | nothing
  deriving DecidableEq

namespace Expected

def words : Expected → String
  | text => "a string"
  | truth => "a boolean"
  | int64 => "i64"
  | uint32 => "u32"
  | list => "a sequence"
  | record name => "struct " ++ name
  | fieldName => "field identifier"
  | choice => "a Value::Tagged enum"
  | nothing => "unit"

end Expected

/-- What stands where something else was expected. -/
inductive Found where
  | null
  | bool (value : Bool)
  | int (value : Int)
  | float (value : Binary64)
  | string (text : String)
  | sequence
  | mapping
  | tagged
  deriving DecidableEq

namespace Found

def ofValue : Yaml.Value → Found
  | .null => null
  | .bool value => bool value
  | .int value => int value
  | .float value => float value
  | .string text => string text
  | .sequence _ => sequence
  | .mapping _ => mapping
  | .tagged _ _ => tagged

/-- A name between the marks that set it off from the words around it. -/
def setOff (name : String) : String :=
  "\x60" ++ name ++ "\x60"

def words : Found → String
  | null => "unit value"
  | bool value => "boolean " ++ setOff (if value then "true" else "false")
  | int value => "integer " ++ setOff (Decimal.intText value)
  | float value => "floating point " ++ setOff value.plainText
  | string text => "string " ++ Text.quote text
  | sequence => "sequence"
  | mapping => "map"
  | tagged => "enum"

end Found

/-- Why a value cannot be read. -/
inductive Mismatch where
  | wrongType (found : Found) (expected : Expected)
  /-- A whole number that is too large or too small. -/
  | outOfRange (number : Int) (expected : Expected)
  | unknownChoice (name : String) (choices : List String)
  | missingField (name : String)
  | repeatedField (name : String)
  deriving DecidableEq

namespace Mismatch

def message : Mismatch → String
  | wrongType found expected => "invalid type: " ++ found.words ++ ", expected " ++ expected.words
  | outOfRange number expected =>
    "invalid value: integer " ++ Found.setOff (Decimal.intText number) ++ ", expected "
      ++ expected.words
  | unknownChoice name choices =>
    "unknown variant " ++ Found.setOff name ++ ", expected one of "
      ++ ", ".intercalate (choices.map Found.setOff)
  | missingField name => "missing field " ++ Found.setOff name
  | repeatedField name => "duplicate field " ++ Found.setOff name

end Mismatch

end SoloJournal.Authoring
