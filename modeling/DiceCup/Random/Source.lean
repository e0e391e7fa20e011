/-!
# Sources of random words

Chance enters as a sequence of words of 32 bits.  A source is a state from which the next word and
the next state follow, so a roll is a function of the state that it starts from.

Drawing until a word is acceptable ends for any source, because a source also tells how many words
it takes until it has shown everything it will ever show.
-/

namespace DiceCup

/-- States from which words of 32 bits can be drawn one after another. -/
class WordSource (σ : Type) where
  /-- Draw the next word. -/
  next : StateM σ UInt32
  /-- A number of draws after which no word comes that has not come before. -/
  horizon : σ → Nat

namespace WordSource

/--
The first acceptable word among so many draws and one more, or the last of these words if none of
them is acceptable.
-/
def firstWithin
    {σ : Type}
    [WordSource σ]
    (acceptable : UInt32 → Bool) :
    Nat → StateM σ UInt32
  | 0 => next
  | draws + 1 => do
    let word ← next
    if acceptable word then return word else firstWithin acceptable draws

/-- The first acceptable word, if any word of the source is acceptable at all. -/
def first
    {σ : Type}
    [WordSource σ]
    (acceptable : UInt32 → Bool) :
    StateM σ UInt32 := do
  firstWithin acceptable (horizon (← get))

end WordSource

end DiceCup
