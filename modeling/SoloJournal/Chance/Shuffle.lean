import SoloJournal.Chance.Source

/-!
# Shuffling

From the last place down to the second, the item in each place changes with
the item in a place drawn from those up to and including it.
-/

namespace SoloJournal

universe u v

variable {source : Type u} [RandomSource source] {item : Type v}

/-- Settles the places `last`, `last - 1`, … and `1`. -/
def shuffleFrom : Nat → Array item → source → Array item × source
  | 0, items, state => (items, state)
  | last + 1, items, state =>
    let (place, state) := RandomSource.below (last + 2) state
    shuffleFrom last (items.swapIfInBounds (last + 1) place) state

def shuffle (items : List item) (state : source) : List item × source :=
  let (shuffled, state) := shuffleFrom (items.length - 1) items.toArray state
  (shuffled.toList, state)

end SoloJournal
