import Cupping.Binary64.Dyadic

/-!
Reading a number from free text: decimal digits with an optional point and exponent, or a name for
infinity or for no number. The nearest double is taken.
-/

namespace Cupping.Decimal

/-- The digits at the front of a text, and what follows them. -/
def spanDigits (text : List Char) : List Char × List Char :=
  (text.takeWhile Char.isDigit, text.dropWhile Char.isDigit)

def digitsValue (digits : List Char) : Nat :=
  digits.foldl (fun value c => 10 * value + (c.toNat - '0'.toNat)) 0

/-- A leading sign, and what follows it. -/
def splitSign : List Char → Bool × List Char
  | '-' :: rest => (true, rest)
  | '+' :: rest => (false, rest)
  | text => (false, text)

/-- The exponent at the end of a number; nothing at all counts as zero. -/
def exponent? : List Char → Option Int
  | [] => some 0
  | c :: rest =>
    if c.toLower ≠ 'e' then none else
    let (negative, text) := splitSign rest
    match spanDigits text with
    | ([], _) => none
    | (digits, []) =>
      some (if negative then -(digitsValue digits : Int) else digitsValue digits)
    | (_, _ :: _) => none

def toFloat (coefficient : Nat) (exponent : Int) : Float :=
  Float.ofScientific coefficient (exponent < 0) exponent.natAbs

/-- A number without sign: digits before or after the point, then an exponent. -/
def unsigned? (text : List Char) : Option Float :=
  let (whole, rest) := spanDigits text
  let (fraction, rest) := match rest with
    | '.' :: rest => spanDigits rest
    | rest => ([], rest)
  if whole.isEmpty && fraction.isEmpty then none
  else (exponent? rest).map fun exponent =>
    toFloat (digitsValue (whole ++ fraction)) (exponent - fraction.length)

def named? (text : List Char) : Option Float :=
  let name := String.ofList (text.map Char.toLower)
  if name = "inf" ∨ name = "infinity" then some (1.0 / 0.0)
  else if name = "nan" then some (0.0 / 0.0)
  else none

def read? (text : String) : Option Float :=
  let (negative, rest) := splitSign text.toList
  (named? rest <|> unsigned? rest).map (Binary64.withSign negative)

end Cupping.Decimal
