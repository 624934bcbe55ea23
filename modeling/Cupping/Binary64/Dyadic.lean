/-!
Doubles taken apart: the fields of the bit pattern, the exact value of a finite double as a
dyadic number, and rounding to a whole number.
-/

namespace Cupping

/-- The number `significand * 2 ^ exponent`, negated when `negative` holds. -/
structure Dyadic where
  negative : Bool
  significand : Nat
  exponent : Int
deriving DecidableEq, Repr

/-- The magnitude of a dyadic number, rounded to a whole number with halves going up. -/
def Dyadic.nearestWhole (d : Dyadic) : Nat :=
  if 0 ≤ d.exponent then
    d.significand * Nat.pow 2 d.exponent.toNat
  else
    let scale := Nat.pow 2 (-d.exponent).toNat
    (2 * d.significand + scale) / (2 * scale)

namespace Binary64

/-- The exponent field of the bit pattern, still biased. -/
def exponentField (x : Float) : Nat :=
  x.toBits.toNat / Nat.pow 2 52 % Nat.pow 2 11

/-- The fraction field of the bit pattern, without the implicit leading bit. -/
def fractionField (x : Float) : Nat :=
  x.toBits.toNat % Nat.pow 2 52

/-- The sign bit; it is set for negative zero. -/
def isNegative (x : Float) : Bool :=
  decide (Nat.pow 2 63 ≤ x.toBits.toNat)

def dyadic (x : Float) : Dyadic :=
  if exponentField x = 0 then
    ⟨isNegative x, fractionField x, -1074⟩
  else
    ⟨isNegative x, Nat.pow 2 52 + fractionField x, (exponentField x : Int) - 1075⟩

/-- Changes the sign of a double when asked to, also of zero. -/
def withSign (negative : Bool) (magnitude : Float) : Float :=
  if negative then -magnitude else magnitude

/-- Rounds to the nearest whole number; a half goes away from zero and the sign is kept.
Doubles with a nonnegative exponent are whole already. -/
def roundWhole (x : Float) : Float :=
  if !x.isFinite || decide (0 ≤ (dyadic x).exponent) then x
  else withSign (isNegative x) (Float.ofNat ((dyadic x).nearestWhole))

end Binary64
end Cupping
