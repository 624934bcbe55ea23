import Cupping.Decimal.Notation
import Cupping.Decimal.Reading
import Cupping.Text.Blank

/-!
One present cell of a dataset row: a number or a text. Text from a file is coerced once, when it is
read; a text that stayed a text can still be read as a number later, with the same result.
-/

namespace Cupping

/-- A present value. -/
inductive Cell where
  | number (value : Float)
  | text (value : String)
deriving DecidableEq, Repr

namespace Cell

/-- A text read as a finite number, white space around it aside. -/
def readNumber? (text : String) : Option Float :=
  (Decimal.read? (Text.trim text)).filter Float.isFinite

/-- Coerces the text of a cell: nothing when blank, a number when it reads as a finite one, else the
trimmed text. -/
def ofRaw? (raw : String) : Option Cell :=
  let trimmed := Text.trim raw
  if trimmed.isEmpty then none
  else match (Decimal.read? trimmed).filter Float.isFinite with
    | some value => some (.number value)
    | none => some (.text trimmed)

def number? : Cell → Option Float
  | number value => if value.isFinite then some value else none
  | text value => readNumber? value

/-- Whether a cell is a text of white space only, which counts as absent. -/
def isBlank : Cell → Bool
  | number _ => false
  | text value => Text.isBlank value

def display : Cell → String
  | number value => Decimal.display value
  | text value => value

end Cell
end Cupping
