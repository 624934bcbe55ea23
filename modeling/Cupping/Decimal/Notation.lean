import Cupping.Decimal.Shortest

/-!
How decimals are written: in full for people, in the number syntax of JSON, and with a fixed
number of places in reports.
-/

namespace Cupping.Decimal

def digitsOf (n : Nat) : List Char :=
  Nat.toDigits 10 n

/-- A digit string with a point that leaves `after` digits behind it. -/
def withPoint (digits : List Char) (after : Nat) : List Char :=
  let padded := List.replicate (after + 1 - digits.length) '0' ++ digits
  padded.take (padded.length - after) ++ '.' :: padded.drop (padded.length - after)

/-- Positional notation, with a point only when digits follow it. -/
def positional (d : Decimal) : List Char :=
  if 0 ≤ d.exponent then
    if d.coefficient = 0 then ['0']
    else digitsOf d.coefficient ++ List.replicate d.exponent.toNat '0'
  else withPoint (digitsOf d.coefficient) (-d.exponent).toNat

/-- The power of ten of the first digit. -/
def magnitude (d : Decimal) : Int :=
  (digitsOf d.coefficient).length - 1 + d.exponent

/-- Exponent notation: one digit, a point when more follow, and a signed power of ten. -/
def scientific (d : Decimal) : List Char :=
  let exponent := magnitude d
  let sign := if exponent < 0 then ['-'] else ['+']
  let mantissa := match digitsOf d.coefficient with
    | first :: second :: rest => first :: '.' :: second :: rest
    | digits => digits
  mantissa ++ 'e' :: sign ++ digitsOf exponent.natAbs

def signed (negative : Bool) (digits : List Char) : List Char :=
  if negative then '-' :: digits else digits

/-- A double as people read it: the shortest digits, never an exponent, no trailing point. -/
def display (x : Float) : String :=
  if x.isNaN then "NaN"
  else
    let digits := if x.isInf then ['i', 'n', 'f'] else positional (ofMagnitude .up x)
    String.ofList (signed (Binary64.isNegative x) digits)

/-- A finite double in JSON: the shortest digits, whole numbers with a zero behind the point, an
exponent outside of `10 ^ -5` up to `10 ^ 16`. -/
def json (x : Float) : String :=
  let d := ofMagnitude .even x
  let digits :=
    if d.coefficient ≠ 0 ∧ (magnitude d < -5 ∨ 16 ≤ magnitude d) then scientific d
    else if 0 ≤ d.exponent then positional d ++ ['.', '0']
    else positional d
  String.ofList (signed (Binary64.isNegative x) digits)

/-- The magnitude of a dyadic number in units of `10 ^ -places`; a tie goes to the even unit. -/
def inUnits (places : Nat) (d : Dyadic) : Nat :=
  if 0 ≤ d.exponent then d.significand * Nat.pow 2 d.exponent.toNat * Nat.pow 10 places
  else nearest .even (d.significand * Nat.pow 10 places) (Nat.pow 2 (-d.exponent).toNat)

/-- A double with a fixed number of places, rounded from its exact value. -/
def fixed (places : Nat) (x : Float) : String :=
  if x.isNaN then "NaN"
  else
    let digits :=
      if x.isInf then ['i', 'n', 'f']
      else
        let units := digitsOf (inUnits places (Binary64.dyadic x))
        if places = 0 then units else withPoint units places
    String.ofList (signed (Binary64.isNegative x) digits)

end Cupping.Decimal
