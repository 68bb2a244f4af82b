import SoloJournal.Chance.KeyStream
import SoloJournal.Chance.Source

/-!
# Seeded sources

A seed of 64 bits is stretched to a key by a permuted congruential generator,
and the key stream of that key answers the questions.  A number below a bound
is the high half of the product of a word and the bound; a word whose low half
falls outside the even zone is thrown away.
-/

namespace SoloJournal

/-- A key stream and the seed that it came from. -/
structure Seeded where
  seed : UInt64
  stream : KeyStream

namespace Seeded

/-- One step of the generator that stretches a seed. -/
def advance (state : UInt64) : UInt64 :=
  state * 6364136223846793005 + 11634580027462260723

/-- The output of the generator in a state: its high bits mixed and rotated. -/
def permuted (state : UInt64) : UInt32 :=
  let mixed := (((state >>> 18) ^^^ state) >>> 27).toUInt32
  let amount := (state >>> 59).toUInt32
  (mixed >>> amount) ||| (mixed <<< ((32 - amount) % 32))

/-- The next `count` key words that a generator state gives. -/
def keyWords : Nat → UInt64 → List UInt32
  | 0, _ => []
  | count + 1, state => permuted (advance state) :: keyWords count (advance state)

theorem length_keyWords (count : Nat) (state : UInt64) :
    (keyWords count state).length = count := by
  induction count generalizing state with
  | zero => rfl
  | succ count induction => simp [keyWords, induction]

/-- The key that a seed stands for. -/
def keyOf (seed : UInt64) : Vector UInt32 8 :=
  ⟨(keyWords 8 seed).toArray, by simp [length_keyWords]⟩

def ofSeed (seed : UInt64) : Seeded :=
  { seed, stream := KeyStream.ofKey (keyOf seed) }

/-- The largest low half that leaves every answer below `bound` equally likely
among the words accepted. -/
def zone (bound : Nat) : Nat :=
  bound * Nat.pow 2 (31 - bound.log2) - 1

/-- Takes words until one is accepted.  At least every other word is, so the
last of `spare` further words is taken as it is. -/
def drawBelow (bound : Nat) : Nat → KeyStream → Nat × KeyStream
  | 0, stream =>
    let (word, stream) := stream.next
    (word.toNat * bound / UInt32.size, stream)
  | spare + 1, stream =>
    let (word, stream) := stream.next
    let product := word.toNat * bound
    if product % UInt32.size ≤ zone bound then (product / UInt32.size, stream)
    else drawBelow bound spare stream

def below (bound : Nat) (state : Seeded) : Nat × Seeded :=
  let (answer, stream) := drawBelow bound 4096 state.stream
  (answer, { state with stream })

def rollDie (state : Seeded) : UInt8 × Seeded :=
  let (answer, state) := state.below 6
  (UInt8.ofNat (answer + 1), state)

instance : RandomSource Seeded where
  below := below
  rollDie := rollDie

theorem product_div_lt {bound : Nat} (positive : 0 < bound) (word : UInt32) :
    word.toNat * bound / UInt32.size < bound := by
  have := word.toNat_lt
  exact Nat.div_lt_of_lt_mul (Nat.mul_lt_mul_of_pos_right this positive)

theorem drawBelow_lt {bound : Nat} (positive : 0 < bound) (spare : Nat)
    (stream : KeyStream) : (drawBelow bound spare stream).1 < bound := by
  induction spare generalizing stream with
  | zero => exact product_div_lt positive _
  | succ spare induction =>
    simp only [drawBelow]
    split
    · exact product_div_lt positive _
    · exact induction _

theorem below_lt {bound : Nat} (positive : 0 < bound) (state : Seeded) :
    (state.below bound).1 < bound := by
  exact drawBelow_lt positive 4096 state.stream

theorem one_le_rollDie (state : Seeded) : 1 ≤ (rollDie state).1 := by
  have := below_lt (by decide : 0 < 6) state
  simp only [rollDie, UInt8.le_iff_toNat_le, UInt8.toNat_ofNat', UInt8.toNat_one]
  omega

theorem rollDie_le_six (state : Seeded) : (rollDie state).1 ≤ 6 := by
  have := below_lt (by decide : 0 < 6) state
  simp only [rollDie, UInt8.le_iff_toNat_le, UInt8.toNat_ofNat']
  show _ ≤ 6
  omega

instance : LawfulSource Seeded where
  below_lt _ state positive := below_lt positive state
  one_le_face := one_le_rollDie
  face_le_six := rollDie_le_six

end Seeded

end SoloJournal
