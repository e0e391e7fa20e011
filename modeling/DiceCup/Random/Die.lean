import DiceCup.Random.Face

/-!
# Sources of dice

A roll asks chance for nothing but the face that the next die shows.  A source of dice is a state
from which dice can be thrown one after another, and every source of words is one.  The law of such
a source is that a die shows one of its faces; which one it shows is left open.
-/

namespace DiceCup

/-- States from which dice can be thrown one after another. -/
class DieSource (σ : Type) where
  /-- Throw a die with a number of sides. -/
  throw : Nat → StateM σ Nat

/-- Sources whose dice show one of their faces. -/
class LawfulDieSource
    (σ : Type)
    [DieSource σ] :
    Prop where
  throw_mem
    {sides : Nat}
    (positive : 0 < sides)
    (fits : sides < UInt32.size)
    (source : σ) :
    1 ≤ ((DieSource.throw sides).run source).1 ∧
      ((DieSource.throw sides).run source).1 ≤ sides

variable {σ : Type} [WordSource σ]

instance : DieSource σ where
  throw := Face.throw

instance : LawfulDieSource σ where
  throw_mem positive _ := Face.throw_mem positive

end DiceCup
