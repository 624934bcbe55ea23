import Cupping.Json.Value

/-!
Numbers as JSON writes them. The digits are gathered in 64 bits; those that no longer fit are
dropped, and the power of ten makes up for them. The result is scaled by a power of ten in double
arithmetic, so that it can be off by the last digit.
-/

namespace Cupping.Json

/-- The parts of a written number. -/
structure Numeral where
  negative : Bool
  whole : List Char
  /-- Empty when there is no point. -/
  fraction : List Char
  exponent : Option Int
deriving DecidableEq, Repr

namespace Numeral

/-- Whether digits can stand before the point: a single zero, or no zero in front. -/
def isWholePart : List Char → Bool
  | [] => false
  | ['0'] => true
  | first :: _ => first ≠ '0'

/-- The digits behind the point, and what follows them; a point needs a digit. -/
def fraction? : List Char → Option (List Char × List Char)
  | '.' :: rest =>
    match Decimal.spanDigits rest with
    | ([], _) => none
    | found => some found
  | rest => some ([], rest)

/-- The exponent that makes up the rest of a number, if there is a rest. -/
def exponent? : List Char → Option (Option Int)
  | [] => some none
  | rest => (Decimal.exponent? rest).map some

def unsigned? (negative : Bool) (text : List Char) : Option Numeral := do
  let (whole, rest) := Decimal.spanDigits text
  if !isWholePart whole then none else
  let (fraction, rest) ← fraction? rest
  let exponent ← exponent? rest
  some ⟨negative, whole, fraction, exponent⟩

def ofChars? : List Char → Option Numeral
  | '-' :: rest => unsigned? true rest
  | text => unsigned? false text

/-- Appends digits to a number as long as it stays below `2 ^ 64`; also tells how many did not
fit. -/
def gather (significand : Nat) : List Char → Nat × Nat
  | [] => (significand, 0)
  | digit :: rest =>
    let next := 10 * significand + (digit.toNat - '0'.toNat)
    if next < Nat.pow 2 64 then gather next rest else (significand, rest.length + 1)

def tenTo (power : Nat) : Float :=
  Float.ofScientific 1 false power

/-- A double times a power of ten, if that is not too large. Steps of `10 ^ -308` keep each divisor
a double. -/
def scale? (value : Float) (exponent : Int) : Option Float :=
  if exponent.natAbs ≤ 308 then
    if 0 ≤ exponent then
      let scaled := value * tenTo exponent.toNat
      if scaled.isInf then none else some scaled
    else some (value / tenTo exponent.natAbs)
  else if value == 0.0 then some value
  else if 0 ≤ exponent then none
  else scale? (value / tenTo 308) (exponent + 308)
termination_by exponent.natAbs

/-- A number without point and exponent that fits; zero has no negative, and neither has what is
below the smallest 64-bit integer. -/
def wholeValue (negative : Bool) (magnitude : Nat) : Number :=
  if !negative then .whole magnitude
  else if magnitude = 0 ∨ Nat.pow 2 63 < magnitude then .real (-Float.ofNat magnitude)
  else .whole (-magnitude)

/-- The value of a number, if it has one. -/
def value? (numeral : Numeral) : Option Number :=
  let (significand, dropped) := gather 0 numeral.whole
  if numeral.fraction.isEmpty && numeral.exponent.isNone && dropped == 0 then
    some (wholeValue numeral.negative significand)
  else
    let (significand, left) := gather significand numeral.fraction
    let places : Int := numeral.fraction.length - left
    (scale? (Float.ofNat significand) (dropped - places + numeral.exponent.getD 0)).map fun value =>
      .real (Binary64.withSign numeral.negative value)

end Numeral

def Value.ofWord? (word : List Char) : Option Value :=
  if word = ['n', 'u', 'l', 'l'] then some .null
  else if word = ['t', 'r', 'u', 'e'] then some (.bool true)
  else if word = ['f', 'a', 'l', 's', 'e'] then some (.bool false)
  else (Numeral.ofChars? word).map fun numeral =>
    match numeral.value? with
    | some value => .number value
    | none => .unreadable

end Cupping.Json
