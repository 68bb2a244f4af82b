/-!
# YAML nodes

The parts of a document before aliases are followed and texts are given a
meaning.  A tag is the sequence of its bytes.  Anchors are numbers here.
-/

namespace SoloJournal.Yaml

/-- What may stand before a node. -/
structure Properties where
  anchor : Option Nat
  tag : Option (List UInt8)
  deriving DecidableEq

namespace Properties

def none : Properties :=
  { anchor := .none, tag := .none }

end Properties

inductive Node where
  | alias (anchor : Nat)
  | scalar (properties : Properties) (text : String) (plain : Bool)
  | sequence (properties : Properties) (items : List Node)
  | mapping (properties : Properties) (entries : List (Node × Node))

namespace Node

/-- The node that is meant where there is none. -/
def empty : Node :=
  .scalar .none "" true

def properties : Node → Properties
  | .alias _ => .none
  | .scalar properties _ _ => properties
  | .sequence properties _ => properties
  | .mapping properties _ => properties

/-- Puts a node before others if it has an anchor. -/
def noteAnchor (node : Node) (anchored : List (Nat × Node)) : List (Nat × Node) :=
  match node.properties.anchor with
  | some anchor => (anchor, node) :: anchored
  | none => anchored

mutual

/-- Puts the nodes that have an anchor before others, the latest in the
document first. -/
def anchored (node : Node) (others : List (Nat × Node)) : List (Nat × Node) :=
  match node with
  | .alias _ => others
  | .scalar properties text plain => noteAnchor (.scalar properties text plain) others
  | .sequence properties items =>
    anchoredItems items (noteAnchor (.sequence properties items) others)
  | .mapping properties entries =>
    anchoredEntries entries (noteAnchor (.mapping properties entries) others)

def anchoredItems : List Node → List (Nat × Node) → List (Nat × Node)
  | [], others => others
  | item :: items, others => anchoredItems items (anchored item others)

def anchoredEntries : List (Node × Node) → List (Nat × Node) → List (Nat × Node)
  | [], others => others
  | (key, value) :: entries, others =>
    anchoredEntries entries (anchored value (anchored key others))

end

mutual

/-- How many parts a document has, where a collection counts for its begin and
its end. -/
def size : Node → Nat
  | .alias _ => 1
  | .scalar _ _ _ => 1
  | .sequence _ items => itemsSize items + 2
  | .mapping _ entries => entriesSize entries + 2

def itemsSize : List Node → Nat
  | [] => 0
  | item :: items => size item + itemsSize items

def entriesSize : List (Node × Node) → Nat
  | [] => 0
  | (key, value) :: entries => size key + size value + entriesSize entries

end

end Node

end SoloJournal.Yaml
