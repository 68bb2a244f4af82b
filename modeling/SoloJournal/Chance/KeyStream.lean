/-!
# The ChaCha key stream with twelve rounds

A key of eight words and a block number determine sixteen words of key stream.
A `KeyStream` hands out the words of block after block, beginning with block
zero and leaving none out.
-/

namespace SoloJournal

/-- The sixteen words that a block is computed from and in. -/
abbrev ChaChaBlock := Vector UInt32 16

namespace ChaChaBlock

def rotateLeft (word : UInt32) (amount : UInt32) : UInt32 :=
  (word <<< amount) ||| (word >>> (32 - amount))

/-- Adds, mixes and rotates four words of a block. -/
def quarterRound (block : ChaChaBlock) (a b c d : Fin 16) : ChaChaBlock :=
  let block := block.set a (block[a] + block[b])
  let block := block.set d (rotateLeft (block[d] ^^^ block[a]) 16)
  let block := block.set c (block[c] + block[d])
  let block := block.set b (rotateLeft (block[b] ^^^ block[c]) 12)
  let block := block.set a (block[a] + block[b])
  let block := block.set d (rotateLeft (block[d] ^^^ block[a]) 8)
  let block := block.set c (block[c] + block[d])
  block.set b (rotateLeft (block[b] ^^^ block[c]) 7)

/-- A round over the columns and a round over the diagonals. -/
def doubleRound (block : ChaChaBlock) : ChaChaBlock :=
  let block := block.quarterRound 0 4 8 12
  let block := block.quarterRound 1 5 9 13
  let block := block.quarterRound 2 6 10 14
  let block := block.quarterRound 3 7 11 15
  let block := block.quarterRound 0 5 10 15
  let block := block.quarterRound 1 6 11 12
  let block := block.quarterRound 2 7 8 13
  block.quarterRound 3 4 9 14

/-- The block before its rounds: the constant words, the key, the block number
and a nonce of zero. -/
def initial (key : Vector UInt32 8) (number : UInt64) : ChaChaBlock :=
  #v[0x61707865, 0x3320646e, 0x79622d32, 0x6b206574,
    key[0], key[1], key[2], key[3], key[4], key[5], key[6], key[7],
    number.toUInt32, (number >>> 32).toUInt32, 0, 0]

/-- Twelve rounds and the sum with the block they began from. -/
def keyed (key : Vector UInt32 8) (number : UInt64) : ChaChaBlock :=
  let start := initial key number
  let mixed := Nat.repeat doubleRound 6 start
  Vector.zipWith (· + ·) mixed start

end ChaChaBlock

/-- The words of the key stream from a position on. -/
structure KeyStream where
  key : Vector UInt32 8
  /-- The number of the current block. -/
  number : UInt64
  block : ChaChaBlock
  position : Fin 16

namespace KeyStream

def ofKey (key : Vector UInt32 8) : KeyStream :=
  { key, number := 0, block := ChaChaBlock.keyed key 0, position := 0 }

/-- The next word and the stream after it. -/
def next (stream : KeyStream) : UInt32 × KeyStream :=
  (stream.block[stream.position],
    if inside : stream.position.val + 1 < 16 then
      { stream with position := ⟨stream.position.val + 1, inside⟩ }
    else
      { stream with
        number := stream.number + 1
        block := ChaChaBlock.keyed stream.key (stream.number + 1)
        position := 0 })

end KeyStream

end SoloJournal
