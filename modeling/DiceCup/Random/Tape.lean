import DiceCup.Random.Source

/-!
# A tape of words

A tape holds words that were written down before, so that a roll can be followed word by word.  A
tape that is used up goes on with the multiples and increments of a linear congruential generator,
which visits every word of 32 bits before it repeats one.
-/

namespace DiceCup

/-- Words to be drawn in order, and the last word that was made up after them. -/
structure Tape where
  words : List UInt32
  last : UInt32
  deriving DecidableEq

namespace Tape

/-- The tape with the given words. -/
def ofWords
    (words : List UInt32) :
    Tape :=
  { words, last := 0 }

/-- The word that follows a made-up word. -/
def follow
    (word : UInt32) :
    UInt32 :=
  word * 1664525 + 1013904223

/-- Draw the next word of the tape. -/
def draw :
    StateM Tape UInt32 := fun tape =>
  match tape.words with
  | word :: others => (word, { tape with words := others })
  | [] => (follow tape.last, { tape with last := follow tape.last })

instance : WordSource Tape where
  next := draw
  horizon tape := tape.words.length + UInt32.size

end Tape

end DiceCup
