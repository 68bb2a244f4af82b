import SoloJournal.Yaml.Node.Builder
import SoloJournal.Yaml.Scalar.Meaning
import SoloJournal.Yaml.Token.Scanner

/-!
# The value of a YAML document

Aliases are replaced by what they stand for and scalars by what they mean.
Collections may be nested 128 deep, and aliases may be followed a hundred times
as often as the document has parts.  No two keys of a mapping may be the same.
-/

namespace SoloJournal.Yaml

/-- How deep collections may be nested. -/
def nestingLimit : Nat := 128

/-- How often aliases may be followed for every part of a document. -/
def jumpsPerPart : Nat := 100

/-- The name of a tag of the document's own, which begins with its mark. -/
def ownTag? : Option (List UInt8) → Option String
  | some (0x21 :: name) =>
    String.fromUTF8? ⟨(if name.isEmpty then [0x21] else name).toArray⟩
  | _ => none

/-- The tag of one of the types that every document has. -/
def coreTag (name : String) : List UInt8 :=
  ("tag:yaml.org,2002:" ++ name).toUTF8.toList

namespace Value

/-- Puts the document's own tag around a value. -/
def withTag (tag : Option (List UInt8)) (value : Value) : Value :=
  match ownTag? tag with
  | some name => .tagged name value
  | none => value

/-- What a scalar means that has no tag or one of the document's own. -/
def ofUntyped? (text : String) (plain : Bool) : Option Value :=
  if plain then ofPlain? text else some (.string text)

/-- What a scalar means.  The tag of a type decides how its text is read, also
in quotes, and every other foreign tag makes it a text. -/
def ofScalar? (tag : Option (List UInt8)) (text : String) (plain : Bool) : Option Value :=
  match tag with
  | none => ofUntyped? text plain
  | some bytes =>
    if bytes.head? = some 0x21 then (ofUntyped? text plain).map (withTag tag)
    else if bytes = coreTag "bool" then (truth? text).map .bool
    else if bytes = coreTag "int" then ofWholeNumber? text
    else if bytes = coreTag "float" then (float? text).map .float
    else if bytes = coreTag "null" then if isNull text then some .null else none
    else some (.string text)

/-- Whether no two keys are the same. -/
def hasDistinctKeys : List (Value × Value) → Bool
  | [] => true
  | (key, _) :: entries =>
    !entries.any (fun entry => key.same entry.1) && hasDistinctKeys entries

/-- Replaces aliases; the state is how often that may still be done. -/
abbrev Expansion := StateT Nat Option

/-- The node that is meant: an alias means the latest node in the document
whose anchor has its number. -/
def target (anchored : List (Nat × Node)) : Node → Expansion Node
  | .alias anchor => fun jumps =>
    match jumps, anchored.lookup anchor with
    | jumps + 1, some node => some (node, jumps)
    | _, _ => none
  | node => pure node

/-- The value of a node.  `inner` gives the values of the parts of a
collection, where one is allowed. -/
def expandWith (anchored : List (Nat × Node)) (inner : Option (Node → Expansion Value))
    (node : Node) : Expansion Value := do
  match ← target anchored node, inner with
  | .scalar properties text plain, _ => liftM (ofScalar? properties.tag text plain)
  | .sequence properties items, some inner =>
    let items ← items.mapM inner
    return withTag properties.tag (.sequence items)
  | .mapping properties entries, some inner =>
    let entries ← entries.mapM fun (key, value) => return (← inner key, ← inner value)
    if hasDistinctKeys entries then return withTag properties.tag (.mapping entries)
    else failure
  | _, _ => failure

/-- The value of a node with so many levels of collections. -/
def expand (anchored : List (Nat × Node)) : (depth : Nat) → Node → Expansion Value
  | 0 => expandWith anchored none
  | depth + 1 => expandWith anchored (some (expand anchored depth))

def ofNode? (node : Node) : Option Value :=
  (expand (node.anchored []) nestingLimit node (jumpsPerPart * node.size)).map Prod.fst

end Value

/-- The value of the document that a text spells. -/
def parse? (text : String) : Option Value := do
  let tokens ← Token.ofText? text
  let node ← Node.ofTokens? tokens
  Value.ofNode? node

end SoloJournal.Yaml
