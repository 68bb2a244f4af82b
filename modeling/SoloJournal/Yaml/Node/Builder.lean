import SoloJournal.Yaml.Node
import SoloJournal.Yaml.Token

/-!
# Putting nodes together

The collections that are still open are kept on a stack, so a document may be
nested to any depth.  Many nodes may be left out: an entry of a sequence, a key
and a value can all be empty.  A text holds at most one document.
-/

namespace SoloJournal.Yaml

/-- What tags and anchors mean at a place of a document. -/
structure Scope where
  /-- The addresses that tag handles stand for. -/
  handles : List (String × List UInt8)
  /-- The numbers of the anchors, one for every name. -/
  anchors : List (String × Nat)

namespace Scope

/-- Gives an anchor a number.  The number is that of the names so far, so a
name that is used again may share its number with a later one. -/
def addAnchor (name : String) (scope : Scope) : Nat × Scope :=
  let number := scope.anchors.length
  let others := scope.anchors.filter (fun anchor => anchor.1 != name)
  (number, { scope with anchors := (name, number) :: others })

/-- The tag that a handle and the rest of a tag spell. -/
def tag? (handle : String) (bytes : List UInt8) (scope : Scope) : Option (List UInt8) :=
  if handle.isEmpty then some bytes
  else (scope.handles.lookup handle).map (fun address => address ++ bytes)

end Scope

/-- A collection that is not closed yet.  Its parts are held latest first. -/
inductive OpenNode where
  /-- A block sequence with marks of its own for its begin and end. -/
  | block (properties : Properties) (items : List Node)
  /-- A block sequence without them: it ends where no entry follows. -/
  | indentless (properties : Properties) (items : List Node)
  | blockKey (properties : Properties) (entries : List (Node × Node))
  | blockValue (properties : Properties) (entries : List (Node × Node)) (key : Node)
  | flow (properties : Properties) (items : List Node) (first : Bool)
  /-- A mapping of a single entry within a flow sequence. -/
  | pairKey (properties : Properties) (items : List Node)
  | pairValue (properties : Properties) (items : List Node) (key : Node)
  | flowKey (properties : Properties) (entries : List (Node × Node)) (first : Bool)
  /-- A flow mapping with a key that has no mark and hence no value. -/
  | flowBareKey (properties : Properties) (entries : List (Node × Node))
  | flowValue (properties : Properties) (entries : List (Node × Node)) (key : Node)

/-- What has been read of a document. -/
structure Builder where
  scope : Scope
  /-- The open collections, innermost first. -/
  stack : List OpenNode
  /-- The node of the document, once it is complete. -/
  done : Option Node
  tokens : List Token

namespace Builder

/-- Hands a complete node to the innermost open collection. -/
def complete (node : Node) (builder : Builder) : Builder :=
  match builder.stack with
  | [] => { builder with done := some node }
  | top :: stack =>
    let top := match top with
      | .block properties items => .block properties (node :: items)
      | .indentless properties items => .indentless properties (node :: items)
      | .blockKey properties entries => .blockValue properties entries node
      | .blockValue properties entries key => .blockKey properties ((key, node) :: entries)
      | .flow properties items _ => .flow properties (node :: items) false
      | .pairKey properties items => .pairValue properties items node
      | .pairValue properties items key =>
        .flow properties (.mapping .none [(key, node)] :: items) false
      | .flowKey properties entries _ => .flowValue properties entries node
      | .flowBareKey properties entries => .flowKey properties ((node, .empty) :: entries) false
      | .flowValue properties entries key =>
        .flowKey properties ((key, node) :: entries) false
    { builder with stack := top :: stack }

/-- Opens a collection. -/
def enter (top : OpenNode) (builder : Builder) : Builder :=
  { builder with stack := top :: builder.stack }

/-- Replaces the innermost open collection. -/
def become (top : OpenNode) (builder : Builder) : Builder :=
  { builder with stack := top :: builder.stack.tail }

/-- Closes the innermost open collection, which has become a node. -/
def close (node : Node) (builder : Builder) : Builder :=
  { builder with stack := builder.stack.tail }.complete node

def setTokens (tokens : List Token) (builder : Builder) : Builder :=
  { builder with tokens }

/-! ## Nodes -/

/-- The anchor and the tag before a node, in either order, as they are
written. -/
def writtenProperties : List Token →
    Option String × Option (String × List UInt8) × List Token
  | .anchor name :: .tag handle bytes :: tokens => (some name, some (handle, bytes), tokens)
  | .tag handle bytes :: .anchor name :: tokens => (some name, some (handle, bytes), tokens)
  | .anchor name :: tokens => (some name, none, tokens)
  | .tag handle bytes :: tokens => (none, some (handle, bytes), tokens)
  | tokens => (none, none, tokens)

/-- Reads the anchor and the tag before a node. -/
def readProperties (builder : Builder) : Option (Properties × Builder) := do
  let (name, tag, tokens) := writtenProperties builder.tokens
  let tag ← match tag with
    | some (handle, bytes) => (builder.scope.tag? handle bytes).map some
    | none => some none
  let (anchor, scope) := match name with
    | some name =>
      let (number, scope) := builder.scope.addAnchor name
      (some number, scope)
    | none => (none, builder.scope)
  return ({ anchor, tag }, { builder with scope, tokens })

/-- The properties of a scalar: the tag `!` says nothing about it. -/
def scalarProperties (properties : Properties) : Properties :=
  if properties.tag = some [0x21] then { properties with tag := none } else properties

/-- Reads a node after its properties, or opens the collection that begins
here.  Within flow collections there are no block collections, and only in
block mappings a sequence may have no mark of its own for its begin. -/
def readContent (inBlock inMapping : Bool) (properties : Properties)
    (builder : Builder) : Option Builder :=
  match builder.tokens with
  | .scalar text plain :: tokens =>
    some ((builder.setTokens tokens).complete
      (.scalar (scalarProperties properties) text plain))
  | .flowSequenceStart :: tokens =>
    some ((builder.setTokens tokens).enter (.flow properties [] true))
  | .flowMappingStart :: tokens =>
    some ((builder.setTokens tokens).enter (.flowKey properties [] true))
  | tokens =>
    let block? : Option Builder := match tokens with
      | .blockEntry :: _ =>
        if inMapping then some (builder.enter (.indentless properties [])) else none
      | .blockSequenceStart :: tokens =>
        if inBlock then some ((builder.setTokens tokens).enter (.block properties []))
        else none
      | .blockMappingStart :: tokens =>
        if inBlock then some ((builder.setTokens tokens).enter (.blockKey properties []))
        else none
      | _ => none
    if block?.isSome then block?
    else if properties = .none then none
    else some (builder.complete (.scalar properties "" true))

/-- Reads a node, or opens the collection that begins here. -/
def readNode (inBlock inMapping : Bool) (builder : Builder) : Option Builder :=
  match builder.tokens with
  | .alias name :: tokens => do
    let anchor ← builder.scope.anchors.lookup name
    return (builder.setTokens tokens).complete (.alias anchor)
  | _ => do
    let (properties, builder) ← builder.readProperties
    builder.readContent inBlock inMapping properties

/-- Reads a node, unless the next token shows that it has been left out. -/
def readOptional (ends : List Token) (inBlock inMapping : Bool) (builder : Builder) :
    Option Builder :=
  if builder.tokens.head?.any ends.contains then some (builder.complete .empty)
  else builder.readNode inBlock inMapping

/-! ## Collections -/

/-- Reads on in the innermost open collection. -/
def stepIn (top : OpenNode) (builder : Builder) : Option Builder :=
  match top, builder.tokens with
  | .block _ _, .blockEntry :: tokens =>
    (builder.setTokens tokens).readOptional [.blockEntry, .blockEnd] true false
  | .block properties items, .blockEnd :: tokens =>
    some ((builder.setTokens tokens).close (.sequence properties items.reverse))
  | .block _ _, _ => none
  | .indentless _ _, .blockEntry :: tokens =>
    (builder.setTokens tokens).readOptional [.blockEntry, .key, .value, .blockEnd] true false
  | .indentless properties items, _ =>
    some (builder.close (.sequence properties items.reverse))
  | .blockKey _ _, .key :: tokens =>
    (builder.setTokens tokens).readOptional [.key, .value, .blockEnd] true true
  | .blockKey properties entries, .blockEnd :: tokens =>
    some ((builder.setTokens tokens).close (.mapping properties entries.reverse))
  | .blockKey _ _, _ => none
  | .blockValue _ _ _, .value :: tokens =>
    (builder.setTokens tokens).readOptional [.key, .value, .blockEnd] true true
  | .blockValue _ _ _, _ => some (builder.complete .empty)
  | .flow properties items _, .flowSequenceEnd :: tokens =>
    some ((builder.setTokens tokens).close (.sequence properties items.reverse))
  | .flow properties items true, tokens => flowEntry properties items tokens
  | .flow properties items false, .flowEntry :: tokens => flowEntry properties items tokens
  | .flow _ _ false, _ => none
  | .pairKey properties items, token :: tokens =>
    if [Token.value, .flowEntry, .flowSequenceEnd].contains token then
      some ((builder.setTokens tokens).become (.pairValue properties items .empty))
    else builder.readNode false false
  | .pairKey _ _, [] => none
  | .pairValue _ _ _, .value :: tokens =>
    (builder.setTokens tokens).readOptional [.flowEntry, .flowSequenceEnd] false false
  | .pairValue _ _ _, _ => some (builder.complete .empty)
  | .flowKey properties entries _, .flowMappingEnd :: tokens =>
    some ((builder.setTokens tokens).close (.mapping properties entries.reverse))
  | .flowKey properties entries true, tokens => flowMember properties entries tokens
  | .flowKey properties entries false, .flowEntry :: tokens =>
    flowMember properties entries tokens
  | .flowKey _ _ false, _ => none
  | .flowBareKey _ _, _ => none
  | .flowValue _ _ _, .value :: tokens =>
    (builder.setTokens tokens).readOptional [.flowEntry, .flowMappingEnd] false false
  | .flowValue _ _ _, _ => some (builder.complete .empty)
where
  /-- Reads an entry of a flow sequence, or its end after a last comma. -/
  flowEntry (properties : Properties) (items : List Node) (tokens : List Token) :
      Option Builder :=
    match tokens with
    | .flowSequenceEnd :: tokens =>
      some ((builder.setTokens tokens).close (.sequence properties items.reverse))
    | .key :: tokens =>
      some ((builder.setTokens tokens).become (.pairKey properties items))
    | tokens => (builder.setTokens tokens).readNode false false
  /-- Reads a key of a flow mapping, or its end after a last comma. -/
  flowMember (properties : Properties) (entries : List (Node × Node))
      (tokens : List Token) : Option Builder :=
    match tokens with
    | .flowMappingEnd :: tokens =>
      some ((builder.setTokens tokens).close (.mapping properties entries.reverse))
    | .key :: tokens =>
      (builder.setTokens tokens).readOptional [.value, .flowEntry, .flowMappingEnd] false
        false
    | tokens =>
      ((builder.setTokens tokens).become (.flowBareKey properties entries)).readNode false
        false

/-- Reads to the end of the document's node.  At most three steps belong to
one token. -/
def run : (fuel : Nat) → Builder → Option (Node × List Token)
  | 0, _ => none
  | fuel + 1, builder =>
    match builder.done, builder.stack with
    | some node, _ => some (node, builder.tokens)
    | none, [] => none
    | none, top :: _ => (builder.stepIn top).bind (run fuel)

/-- Reads a node with everything in it. -/
def readAll (scope : Scope) (tokens : List Token) : Option (Node × List Token) := do
  let builder ← Builder.readNode true false { scope, stack := [], done := none, tokens }
  builder.run (3 * tokens.length + 3)

end Builder

/-! ## Documents -/

/-- The directives before a document. -/
structure Directives where
  hasVersion : Bool
  handles : List (String × List UInt8)

namespace Directives

def none : Directives :=
  { hasVersion := false, handles := [] }

/-- Reads directives.  A version must be one that is known and can be given
once, and a handle cannot be given twice. -/
def read (directives : Directives) : List Token → Option (Directives × List Token)
  | .version major minor :: tokens =>
    if directives.hasVersion || major != 1 || (minor != 1 && minor != 2) then .none
    else read { directives with hasVersion := true } tokens
  | .tagPrefix handle bytes :: tokens =>
    if (directives.handles.lookup handle).isSome then .none
    else read { directives with handles := (handle, bytes) :: directives.handles } tokens
  | tokens => some (directives, tokens)

/-- What tags mean in a document.  Two handles have addresses of their own
unless they are given others. -/
def scope (directives : Directives) : Scope :=
  { handles :=
      directives.handles
        ++ [("!", "!".toUTF8.toList), ("!!", "tag:yaml.org,2002:".toUTF8.toList)]
    anchors := [] }

end Directives

/-- Whether nothing follows a document. -/
def isLastDocument (tokens : List Token) : Bool :=
  tokens.dropWhile (fun token => token == .documentEnd) == [.textEnd]

/-- Tokens before which the node of a document with a mark is left out. -/
def endsDocument : Token → Bool
  | .version _ _ => true
  | .tagPrefix _ _ => true
  | .documentStart => true
  | .documentEnd => true
  | .textEnd => true
  | _ => false

/-- The node of a document that begins with a mark. -/
def Node.ofMarkedDocument? (tokens : List Token) : Option (Node × List Token) := do
  let (directives, tokens) ← Directives.none.read tokens
  match tokens with
  | .documentStart :: tokens =>
    if tokens.head?.any endsDocument then return (.empty, tokens)
    else Builder.readAll directives.scope tokens
  | _ => none

/-- The node of the one document of a text; the empty node if there is no
document. -/
def Node.ofTokens? (tokens : List Token) : Option Node := do
  if tokens = [.textEnd] then return .empty
  let (node, tokens) ← match tokens with
    | .version _ _ :: _ => Node.ofMarkedDocument? tokens
    | .tagPrefix _ _ :: _ => Node.ofMarkedDocument? tokens
    | .documentStart :: _ => Node.ofMarkedDocument? tokens
    | _ => Builder.readAll Directives.none.scope tokens
  if isLastDocument tokens then return node else none

end SoloJournal.Yaml
