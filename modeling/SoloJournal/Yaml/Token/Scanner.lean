import SoloJournal.Yaml.Scalar.Block
import SoloJournal.Yaml.Scalar.Plain
import SoloJournal.Yaml.Scalar.Quoted
import SoloJournal.Yaml.Token.Tag

/-!
# Finding the tokens of a text

The begin and end of block collections follow from the columns of their parts.
A key of a mapping needs no mark of its own: only the colon after it shows what
it was, so the scanner remembers where a key may have begun, once for the block
and once for every open flow collection.  When the colon comes, the mark of the
key is put in at the remembered place.  Such a key must stand on one line and
be no longer than 1024 characters.
-/

namespace SoloJournal.Yaml

/-- Where a key without a mark may have begun. -/
structure KeyPlace where
  /-- Whether there can be nothing but a key, as it begins a line of a block
  mapping. -/
  required : Bool
  /-- The number of tokens before it. -/
  number : Nat
  line : Nat
  column : Nat

namespace KeyPlace

/-- Whether a colon at a place comes too late for the key. -/
def isStale (cursor : Cursor) (place : KeyPlace) : Bool :=
  place.line < cursor.line || place.column + 1024 < cursor.column

end KeyPlace

/-- What the scanner knows between two tokens. -/
structure Scanner where
  cursor : Cursor
  /-- The column of the innermost block collection, one further on; zero if
  there is none. -/
  indent : Nat
  /-- The same for the block collections around it, innermost first. -/
  around : List Nat
  /-- The key that may have begun in the innermost open flow collection, or in
  the block if there is none. -/
  key : Option KeyPlace
  /-- The same for what is around it, innermost first. -/
  outer : List (Option KeyPlace)
  /-- Whether a key without a mark may begin here. -/
  allowed : Bool
  /-- The tokens found so far, latest first. -/
  tokens : List Token
  count : Nat

namespace Scanner

def start (chars : List Char) : Scanner :=
  { cursor := .start chars, indent := 0, around := [], key := none, outer := []
    allowed := true, tokens := [], count := 0 }

def inFlow (scanner : Scanner) : Bool :=
  !scanner.outer.isEmpty

def push (token : Token) (scanner : Scanner) : Scanner :=
  { scanner with tokens := token :: scanner.tokens, count := scanner.count + 1 }

/-- Puts a token after the first `number` ones. -/
def insert (number : Nat) (token : Token) (scanner : Scanner) : Scanner :=
  let later := scanner.count - number
  { scanner with
    tokens := scanner.tokens.take later ++ token :: scanner.tokens.drop later
    count := scanner.count + 1 }

/-- Moves on within the line. -/
def forward (count : Nat) (scanner : Scanner) : Scanner :=
  { scanner with cursor := scanner.cursor.forward count }

/-- Moves on after a token. -/
def found (token : Token) (cursor : Cursor) (scanner : Scanner) : Scanner :=
  { scanner with cursor }.push token

/-! ## Block collections -/

/-- Begins a block collection at a column, after the first `number` tokens, if
the column lies further on than that of the innermost one. -/
def openBlock (token : Token) (column number : Nat) (scanner : Scanner) : Scanner :=
  if scanner.inFlow || column < scanner.indent then scanner
  else
    { scanner with
      indent := column + 1, around := scanner.indent :: scanner.around }.insert number token

/-- Begins a block collection here. -/
def openBlockHere (token : Token) (scanner : Scanner) : Scanner :=
  scanner.openBlock token scanner.cursor.column scanner.count

/-- How many block collections end before a token with the given indentation,
and the indentations that are left. -/
def endedBlocks (limit : Nat) : (indent : Nat) → (around : List Nat) → Nat × Nat × List Nat
  | indent, [] => (0, indent, [])
  | indent, outer :: around =>
    if limit < indent then
      let (count, left) := endedBlocks limit outer around
      (count + 1, left)
    else (0, indent, outer :: around)

/-- Ends the block collections with more than the given indentation. -/
def closeBlocks (limit : Nat) (scanner : Scanner) : Scanner :=
  if scanner.inFlow then scanner
  else
    let (count, indent, around) := endedBlocks limit scanner.indent scanner.around
    { scanner with
      indent, around, tokens := List.replicate count .blockEnd ++ scanner.tokens
      count := scanner.count + count }

/-! ## Keys without a mark -/

/-- Gives up the key that may have begun. -/
def dropKey? (scanner : Scanner) : Option Scanner :=
  if scanner.key.any KeyPlace.required then none else some { scanner with key := none }

/-- Remembers that a key may begin here. -/
def saveKey? (scanner : Scanner) : Option Scanner :=
  if scanner.allowed then do
    let scanner ← scanner.dropKey?
    let required := !scanner.inFlow && scanner.indent == scanner.cursor.column + 1
    return { scanner with
      key := some
        { required, number := scanner.count, line := scanner.cursor.line
          column := scanner.cursor.column } }
  else some scanner

/-- Gives up the keys for which a colon would come too late. -/
def dropStaleKeys? (scanner : Scanner) : Option Scanner :=
  let stale (key : Option KeyPlace) := key.any (fun place => place.isStale scanner.cursor)
  let isLost (key : Option KeyPlace) := stale key && key.any KeyPlace.required
  let fresh (key : Option KeyPlace) := if stale key then none else key
  if isLost scanner.key || scanner.outer.any isLost then none
  else some { scanner with key := fresh scanner.key, outer := scanner.outer.map fresh }

/-! ## Between two tokens -/

/-- Finds the place of the next token after blanks, breaks and comments, and
whether a key may begin there.  Outside flow collections a line may begin with
a key, and a tab may not stand where a key may begin. -/
def seekFrom (flow allowed inComment : Bool) (line column : Nat) :
    List Char → Cursor × Bool
  | [] => ({ rest := [], line, column }, allowed)
  | char :: rest =>
    if isBreak char then seekFrom flow (allowed || !flow) false (line + 1) 0 rest
    else if inComment then seekFrom flow allowed true line (column + 1) rest
    else if char == ' ' || (char == '\t' && (flow || !allowed)) then
      seekFrom flow allowed false line (column + 1) rest
    else if char == '#' then seekFrom flow allowed true line (column + 1) rest
    else ({ rest := char :: rest, line, column }, allowed)

def seek (scanner : Scanner) : Scanner :=
  let cursor := scanner.cursor
  let (cursor, allowed) :=
    seekFrom scanner.inFlow scanner.allowed false cursor.line cursor.column cursor.rest
  { scanner with cursor, allowed }

/-- Goes to the place of the next token and ends the block collections that do
not reach it. -/
def ready? (scanner : Scanner) : Option Scanner := do
  let scanner ← scanner.seek.dropStaleKeys?
  return scanner.closeBlocks (scanner.cursor.column + 1)

/-! ## Tokens -/

/-- Ends everything that is open in the block. -/
def leaveDocument? (scanner : Scanner) : Option Scanner := do
  let scanner ← (scanner.closeBlocks 0).dropKey?
  return { scanner with allowed := false }

/-- The end of the text. -/
def finish? (scanner : Scanner) : Option Scanner := do
  let scanner ← scanner.leaveDocument?
  return scanner.push .textEnd

def directive? (scanner : Scanner) : Option Scanner := do
  let scanner ← scanner.leaveDocument?
  let (token, cursor) ← readDirective scanner.cursor
  return scanner.found token cursor

/-- The mark that begins or ends a document. -/
def documentMark? (token : Token) (scanner : Scanner) : Option Scanner := do
  let scanner ← scanner.leaveDocument?
  return (scanner.push token).forward 3

def beginFlow? (token : Token) (scanner : Scanner) : Option Scanner := do
  let scanner ← scanner.saveKey?
  return ({ scanner with
    key := none, outer := scanner.key :: scanner.outer, allowed := true }.push token).forward 1

def endFlow? (token : Token) (scanner : Scanner) : Option Scanner := do
  let scanner ← scanner.dropKey?
  return ({ scanner with
    key := scanner.outer.head?.join, outer := scanner.outer.tail
    allowed := false }.push token).forward 1

def flowEntry? (scanner : Scanner) : Option Scanner := do
  let scanner ← scanner.dropKey?
  return ({ scanner with allowed := true }.push .flowEntry).forward 1

def blockEntry? (scanner : Scanner) : Option Scanner := do
  if scanner.inFlow || scanner.allowed then
    let scanner ← (scanner.openBlockHere .blockSequenceStart).dropKey?
    return ({ scanner with allowed := true }.push .blockEntry).forward 1
  else none

/-- The mark of a key. -/
def key? (scanner : Scanner) : Option Scanner := do
  if scanner.inFlow || scanner.allowed then
    let scanner ← (scanner.openBlockHere .blockMappingStart).dropKey?
    return ({ scanner with allowed := !scanner.inFlow }.push .key).forward 1
  else none

/-- The mark of a value.  It settles whether a key without a mark had begun. -/
def value? (scanner : Scanner) : Option Scanner := do
  match scanner.key with
  | some place =>
    let scanner :=
      (scanner.insert place.number .key).openBlock .blockMappingStart place.column
        place.number
    return ({ scanner with key := none, allowed := false }.push .value).forward 1
  | none =>
    if scanner.inFlow || scanner.allowed then
      let scanner := scanner.openBlockHere .blockMappingStart
      return ({ scanner with allowed := !scanner.inFlow }.push .value).forward 1
    else none

/-- A token that a key may begin with and no key follows directly. -/
def word? (read : Cursor → Option (Token × Cursor)) (scanner : Scanner) :
    Option Scanner := do
  let scanner ← scanner.saveKey?
  let (token, cursor) ← read scanner.cursor
  return { scanner with allowed := false }.found token cursor

def alias? : Scanner → Option Scanner :=
  word? fun cursor => (readName cursor).map (fun (name, cursor) => (.alias name, cursor))

def anchor? : Scanner → Option Scanner :=
  word? fun cursor => (readName cursor).map (fun (name, cursor) => (.anchor name, cursor))

def quoted? (style : Quoted.Style) : Scanner → Option Scanner :=
  word? fun cursor =>
    (Quoted.read style cursor).map (fun (text, cursor) => (.scalar text false, cursor))

/-- A plain scalar.  If it ends on another line, a key may follow. -/
def plain? (scanner : Scanner) : Option Scanner := do
  let scanner ← scanner.saveKey?
  let result ← Plain.read scanner.inFlow scanner.indent scanner.cursor
  return { scanner with allowed := result.broken }.found (.scalar result.text true)
    result.cursor

def blockScalar? (style : Block.Style) (scanner : Scanner) : Option Scanner := do
  if scanner.inFlow then none
  else
    let scanner ← scanner.dropKey?
    let (text, cursor) ← Block.read style scanner.indent scanner.cursor
    return { scanner with allowed := true }.found (.scalar text false) cursor

/-- The token that the first characters of the rest show. -/
def token? (first : Char) (rest : List Char) (scanner : Scanner) : Option Scanner :=
  match first with
  | '[' => scanner.beginFlow? .flowSequenceStart
  | '{' => scanner.beginFlow? .flowMappingStart
  | ']' => scanner.endFlow? .flowSequenceEnd
  | '}' => scanner.endFlow? .flowMappingEnd
  | ',' => scanner.flowEntry?
  | '*' => scanner.alias?
  | '&' => scanner.anchor?
  | '!' => scanner.word? (readTag scanner.inFlow)
  | '\'' => scanner.quoted? .single
  | '"' => scanner.quoted? .double
  | '|' => scanner.blockScalar? .literal
  | '>' => scanner.blockScalar? .folded
  | '-' => if atGap rest then scanner.blockEntry? else scanner.plain?
  | '?' => if scanner.inFlow || atGap rest then scanner.key? else scanner.plain?
  | ':' => if scanner.inFlow || atGap rest then scanner.value? else scanner.plain?
  | '\t' => none
  | '%' => none
  | '@' => none
  | '\x60' => none
  | _ => scanner.plain?

/-- Reads the token at the place, where there is one. -/
def step? (first : Char) (rest : List Char) (scanner : Scanner) : Option Scanner :=
  if scanner.cursor.column = 0 ∧ first = '%' then scanner.directive?
  else if scanner.cursor.column = 0 ∧ atDocumentMark (first :: rest) then
    scanner.documentMark? (if first = '-' then .documentStart else .documentEnd)
  else scanner.token? first rest

/-- Reads tokens to the end of the text, each of at least one character. -/
def run : (fuel : Nat) → Scanner → Option (List Token)
  | 0, _ => none
  | fuel + 1, scanner => do
    let scanner ← scanner.ready?
    match scanner.cursor.rest with
    | [] => return (← scanner.finish?).tokens.reverse
    | first :: rest => run fuel (← scanner.step? first rest)

end Scanner

/-- The tokens of a text, if it has only characters that are allowed. -/
def Token.ofText? (text : String) : Option (List Token) :=
  let chars := text.toList
  if chars.all isAllowed then
    let chars := normalizeBreaks chars
    (Scanner.start chars).run (chars.length + 1)
  else none

end SoloJournal.Yaml
