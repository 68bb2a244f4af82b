import SoloJournal.Json.Render
import SoloJournal.Wire.Cards
import SoloJournal.Wire.Rules

/-!
# Signatures of content

A rulebook and a catalog are signed by a text of sixteen hexadecimal digits,
so that a saved game can tell whether it was made for other content.  All that
is signed is laid out as one sequence of bytes, each variable part preceded by
its length, and hashed with the 64-bit FNV-1a function.
-/

namespace SoloJournal.Signature

/-- The bytes of a text in UTF-8. -/
def textBytes (text : String) : List UInt8 :=
  text.toByteArray.data.toList

/-- A length in eight bytes, the lowest first. -/
def lengthBytes (length : Nat) : List UInt8 :=
  (List.range 8).map (fun place => UInt8.ofNat (length / Nat.pow 256 place))

/-- A value on the wire, preceded by the number of its bytes. -/
def measured {α : Type} [Wire α] (value : α) : List UInt8 :=
  let bytes := textBytes (Wire.write value).compact
  lengthBytes bytes.length ++ bytes

/-- The signed bytes of a card: its name, a zero, and its prompt or, where it
has none, a single byte. -/
def cardBytes (catalog : Catalog) (card : Card) : List UInt8 :=
  textBytes card.text ++ 0 ::
    (match catalog.prompt? card with
      | some prompt => measured prompt
      | none => [0xff])

/-- All the signed bytes: a tag, the rulebook, and every card in its place. -/
def stream (rules : Rulebook) (catalog : Catalog) : List UInt8 :=
  textBytes "wretched-save-signature-v1" ++ measured rules
    ++ Card.all.flatMap (cardBytes catalog)

/-- Takes one byte into a hash. -/
def hashByte (hash : UInt64) (byte : UInt8) : UInt64 :=
  (hash ^^^ byte.toUInt64) * 0x100000001b3

def hashBytes (bytes : List UInt8) : UInt64 :=
  bytes.foldl hashByte 0xcbf29ce484222325

/-- The sixteen hexadecimal digits of a word, the highest first. -/
def hexText (word : UInt64) : String :=
  String.ofList
    ((List.range 16).map (fun place => Json.hexDigit (word.toNat / Nat.pow 16 (15 - place))))

def ofContent (rules : Rulebook) (catalog : Catalog) : String :=
  hexText (hashBytes (stream rules catalog))

end SoloJournal.Signature
