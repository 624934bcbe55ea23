import Cupping.Decimal.Reading
import Cupping.Text.Lines
import Cupping.Toml.Value

/-!
TOML scalars that are written without quotes: truth values, numbers, and points in time.
-/

namespace Cupping.Toml

/-- The digits of a number with its underscores removed; each has to stand between digits. -/
def digits? (isDigit : Char → Bool) (text : List Char) : Option (List Char) :=
  let groups := Text.splitAt '_' text
  if groups.all fun group => !group.isEmpty && group.all isDigit then some groups.flatten else none

/-- The digits of a decimal number; only zero itself starts with zero. -/
def decimalDigits? (text : List Char) : Option (List Char) :=
  if text.head? = some '0' && text ≠ ['0'] then none else digits? Char.isDigit text

def digitValue (c : Char) : Nat :=
  if c.isDigit then c.toNat - '0'.toNat else c.toLower.toNat - 'a'.toNat + 10

def isDigitOf (base : Nat) (c : Char) : Bool :=
  (c.isDigit || decide ('a' ≤ c.toLower ∧ c.toLower ≤ 'f')) && decide (digitValue c < base)

def digitsValue (base : Nat) (digits : List Char) : Nat :=
  digits.foldl (fun value c => base * value + digitValue c) 0

/-- An integer, if it has 64 bits at most. -/
def bounded? (value : Int) : Option Value :=
  if -(Nat.pow 2 63 : Int) ≤ value ∧ value < Nat.pow 2 63 then some (.integer value) else none

def inBase? (base : Nat) (text : List Char) : Option Value :=
  (digits? (isDigitOf base) text).bind fun digits => bounded? (digitsValue base digits)

/-- A whole number; only decimal ones can have a sign. -/
def integer? : List Char → Option Value
  | '0' :: 'x' :: rest => inBase? 16 rest
  | '0' :: 'o' :: rest => inBase? 8 rest
  | '0' :: 'b' :: rest => inBase? 2 rest
  | text =>
    let (negative, rest) := Decimal.splitSign text
    (decimalDigits? rest).bind fun digits =>
      let value : Int := digitsValue 10 digits
      bounded? (if negative then -value else value)

def isExponentMark (c : Char) : Bool :=
  c = 'e' || c = 'E'

/-- Whether a text can stand behind the whole part of a number with a point or an exponent. -/
def isFractional : List Char → Bool
  | [] => false
  | first :: rest =>
    if first = '.' then
      let fraction := rest.takeWhile (!isExponentMark ·)
      let exponent := rest.dropWhile (!isExponentMark ·)
      (digits? Char.isDigit fraction).isSome && (exponent.isEmpty || isExponent exponent)
    else isExponent (first :: rest)
where
  isExponent (text : List Char) : Bool :=
    (digits? Char.isDigit (Decimal.splitSign (text.drop 1)).2).isSome

/-- A number with a point or an exponent, or a name for infinity or for no number. Positive numbers
may not overflow. -/
def real? (text : List Char) : Option Value :=
  let (negative, rest) := Decimal.splitSign text
  if rest = ['i', 'n', 'f'] then some (.real (Binary64.withSign negative (1.0 / 0.0)))
  else if rest = ['n', 'a', 'n'] then some (.real (0.0 / 0.0))
  else
    let isEnd (c : Char) := c = '.' || isExponentMark c
    let whole := rest.takeWhile (!isEnd ·)
    let part := rest.dropWhile (!isEnd ·)
    if (decimalDigits? whole).isSome && isFractional part then
      let value := Decimal.read? (String.ofList (text.filter (· ≠ '_')))
      (value.filter fun value => !(value.isInf && !negative)).map .real
    else none

/-- A number of exactly two digits within bounds, and what follows it. -/
def twoDigits? (low high : Nat) : List Char → Option (Nat × List Char)
  | tens :: units :: rest =>
    let value := 10 * digitValue tens + digitValue units
    if tens.isDigit && units.isDigit && decide (low ≤ value) && decide (value ≤ high) then
      some (value, rest)
    else none
  | _ => none

def afterChar? (expected : Char) : List Char → Option (List Char)
  | c :: rest => if c = expected then some rest else none
  | [] => none

def daysIn (year month : Nat) : Nat :=
  if month = 2 then
    if year % 4 = 0 ∧ (year % 100 ≠ 0 ∨ year % 400 = 0) then 29 else 28
  else if month ∈ [4, 6, 9, 11] then 30
  else 31

def afterDate? (text : List Char) : Option (List Char) := do
  let (century, rest) ← twoDigits? 0 99 text
  let (year, rest) ← twoDigits? 0 99 rest
  let (month, rest) ← twoDigits? 1 12 (← afterChar? '-' rest)
  let (_, rest) ← twoDigits? 1 (daysIn (100 * century + year) month) (← afterChar? '-' rest)
  some rest

def afterTime? (text : List Char) : Option (List Char) := do
  let (_, rest) ← twoDigits? 0 23 text
  let (_, rest) ← twoDigits? 0 59 (← afterChar? ':' rest)
  let (_, rest) ← twoDigits? 0 60 (← afterChar? ':' rest)
  match rest with
  | '.' :: rest =>
    match Decimal.spanDigits rest with
    | ([], _) => none
    | (_, rest) => some rest
  | rest => some rest

def afterOffset? (text : List Char) : Option (List Char) := do
  let (_, rest) ← twoDigits? 0 23 text
  let (_, rest) ← twoDigits? 0 59 (← afterChar? ':' rest)
  some rest

/-- Whether a text is an offset from universal time, or nothing. -/
def isOffset : List Char → Bool
  | [] | ['Z'] | ['z'] => true
  | '+' :: rest | '-' :: rest => afterOffset? rest = some []
  | _ => false

/-- Whether a text is a time of day, perhaps with an offset. -/
def isTimeWithOffset (text : List Char) : Bool :=
  (afterTime? text).any isOffset

def isMoment (text : List Char) : Bool :=
  (match afterDate? text with
    | some [] => true
    | some ('T' :: rest) | some ('t' :: rest) => isTimeWithOffset rest
    | _ => false)
  || afterTime? text = some []

def scalar? (word : List Char) : Option Value :=
  if word = ['t', 'r', 'u', 'e'] then some (.bool true)
  else if word = ['f', 'a', 'l', 's', 'e'] then some (.bool false)
  else if isMoment word then some .moment
  else integer? word <|> real? word

def isWordChar (c : Char) : Bool :=
  c.isAlphanum || c = '+' || c = '-' || c = '_' || c = '.' || c = ':'

/-- What follows the time of day behind a date and a space, if there is one. -/
def afterSpacedTime (rest : List Char) : List Char :=
  match rest with
  | ' ' :: more =>
    if isTimeWithOffset (more.takeWhile isWordChar) then more.dropWhile isWordChar else rest
  | _ => rest

/-- A scalar at the front of a text, and what follows it. -/
def readScalar? (text : List Char) : Option (Value × List Char) :=
  let word := text.takeWhile isWordChar
  let rest := text.dropWhile isWordChar
  (scalar? word).map fun value =>
    (value, if afterDate? word = some [] then afterSpacedTime rest else rest)

end Cupping.Toml
