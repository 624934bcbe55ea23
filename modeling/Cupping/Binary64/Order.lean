/-!
The order of doubles: the total order of bit patterns, which tells apart the two zeros, and the
numeric choice of the larger or smaller of two, which passes over a value that is no number.
-/

namespace Cupping.Binary64

/-- The place of a double in the total order of bit patterns. -/
def rank (x : Float) : Int :=
  let bits := x.toBits.toNat
  if bits < Nat.pow 2 63 then bits else Nat.pow 2 63 - 1 - bits

/-- Comparison in the total order of bit patterns. -/
def totalLe (x y : Float) : Bool :=
  decide (rank x ≤ rank y)

/-- The numerically larger of two doubles; a value that is no number loses. -/
def larger (x y : Float) : Float :=
  if x.isNaN then y else if y.isNaN then x else if x < y then y else x

/-- The numerically smaller of two doubles; a value that is no number loses. -/
def smaller (x y : Float) : Float :=
  if x.isNaN then y else if y.isNaN then x else if y < x then y else x

/-- Adds from left to right, starting from negative zero so that a lone zero keeps its sign. -/
def sum (values : List Float) : Float :=
  values.foldl (· + ·) (-0.0)

/-- The arithmetic mean, in double arithmetic. -/
def mean (values : List Float) : Float :=
  sum values / Float.ofNat values.length

end Cupping.Binary64
