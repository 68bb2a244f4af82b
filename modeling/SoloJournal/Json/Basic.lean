/-!
# JSON values

A JSON value keeps what readers of records need: members in their order with
repetitions, whole numbers exactly, and other numbers as they are spelled.
-/

namespace SoloJournal

inductive Json where
  | null
  | bool (value : Bool)
  /-- A number without fraction and exponent. -/
  | int (value : Int)
  /-- Any other number, as it is spelled. -/
  | decimal (literal : String)
  | string (text : String)
  /-- A string with half of a surrogate pair, which is no Unicode text. -/
  | unpaired
  | array (items : List Json)
  /-- Members with their names; a name that is no Unicode text is absent. -/
  | object (members : List (Option String × Json))

namespace Json

/-- The object with the given members. -/
def record (members : List (String × Json)) : Json :=
  object (members.map (fun (name, value) => (some name, value)))

/-- The object with one member. -/
def single (name : String) (value : Json) : Json :=
  object [(some name, value)]

end Json

end SoloJournal
