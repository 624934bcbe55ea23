import Cupping.Binary64.Dyadic

/-!
The shortest decimal number that reads back as a given double. A decimal reads back exactly when
it lies between the midpoints to the two neighbouring doubles; the midpoints themselves count when
the significand is even, because reading resolves ties that way.
-/

namespace Cupping

/-- The number `coefficient * 10 ^ exponent`. -/
structure Decimal where
  coefficient : Nat
  exponent : Int
deriving DecidableEq, Repr

/-- Which way an exact tie between two neighbouring decimals goes. -/
inductive Tie where
  | up
  | even
deriving DecidableEq, Repr

namespace Decimal

/-- The quotient of two naturals, rounded to nearest. -/
def nearest (tie : Tie) (numerator denominator : Nat) : Nat :=
  let below := numerator / denominator
  let twice := 2 * (numerator % denominator)
  if twice < denominator then below
  else if denominator < twice then below + 1
  else match tie with
    | .up => below + 1
    | .even => below + below % 2

/-- A positive fraction scaled by a power of ten, as a fraction. -/
def scaled (numerator denominator : Nat) (power : Int) : Nat × Nat :=
  if 0 ≤ power then (numerator * Nat.pow 10 power.toNat, denominator)
  else (numerator, denominator * Nat.pow 10 (-power).toNat)

/-- The power of ten of the leading digit of a positive fraction. The binary logarithms of both
parts give an estimate that is at most one too small. -/
def leadingPower (numerator denominator : Nat) : Int :=
  let binary : Int := (numerator.log2 : Int) - denominator.log2 - 1
  let estimate := (binary * 30103).fdiv 100000
  let reaches (power : Int) : Bool :=
    let (top, bottom) := scaled numerator denominator (-power)
    decide (bottom ≤ top)
  if reaches (estimate + 2) then estimate + 2
  else if reaches (estimate + 1) then estimate + 1
  else estimate

/-- Drops trailing zeros of the coefficient, at most `fuel` of them. -/
def trimZeros : Nat → Decimal → Decimal
  | 0, d => d
  | fuel + 1, d =>
    if d.coefficient ≠ 0 ∧ d.coefficient % 10 = 0 then
      trimZeros fuel ⟨d.coefficient / 10, d.exponent + 1⟩
    else d

/-- The doubles around a finite one, as the open or closed interval of what reads back as it. All
three numbers are in units of a quarter of the last place. -/
structure Interval where
  low : Nat
  value : Nat
  high : Nat
  closed : Bool

/-- The interval around `significand * 2 ^ exponent`; below a power of two the next double is only
half as far away, unless the numbers are already as dense as they get. -/
def intervalAround (significand : Nat) (exponent : Int) : Interval :=
  let narrow := significand = Nat.pow 2 52 ∧ exponent ≠ -1074
  ⟨4 * significand - (if narrow then 1 else 2), 4 * significand, 4 * significand + 2,
    significand % 2 = 0⟩

/-- Whether a numerator over `denominator` lies in the interval. -/
def Interval.holds (interval : Interval) (unit denominator numerator : Nat) : Bool :=
  let low := interval.low * unit
  let high := interval.high * unit
  let point := numerator * denominator
  if interval.closed then decide (low ≤ point) && decide (point ≤ high)
  else decide (low < point) && decide (point < high)

/-- The decimal with the given last place that lies in the interval and is nearest to its value,
if there is one. -/
def onGrid? (tie : Tie) (interval : Interval) (unit denominator : Nat) (place : Int) : Option Nat :=
  let (unit, denominator) := scaled unit denominator (-place)
  let below := interval.value * unit / denominator
  match interval.holds unit denominator below, interval.holds unit denominator (below + 1) with
  | true, true => some (nearest tie (interval.value * unit) denominator)
  | true, false => some below
  | false, true => some (below + 1)
  | false, false => none

/-- The fewest digits that read back as `significand * 2 ^ exponent`, and of those the nearest.
Seventeen digits always suffice. -/
def shortest (tie : Tie) (significand : Nat) (exponent : Int) : Decimal :=
  if significand = 0 then ⟨0, 0⟩ else
  let quarter := exponent - 2
  let unit := if 0 ≤ quarter then Nat.pow 2 quarter.toNat else 1
  let denominator := if 0 ≤ quarter then 1 else Nat.pow 2 (-quarter).toNat
  let interval := intervalAround significand exponent
  let top := leadingPower (interval.value * unit) denominator
  let found := (List.range 17).findSome? fun (extra : Nat) =>
    let place := top - (extra : Int)
    (onGrid? tie interval unit denominator place).map fun coefficient =>
      (⟨coefficient, place⟩ : Decimal)
  trimZeros 20 (found.getD ⟨0, 0⟩)

def ofMagnitude (tie : Tie) (x : Float) : Decimal :=
  shortest tie (Binary64.dyadic x).significand (Binary64.dyadic x).exponent

end Decimal
end Cupping
