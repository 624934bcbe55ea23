import Cupping.Binary64.Order
import Cupping.Decimal.Notation
import Cupping.Text.Blank

/-!
Brewing parameters: their kinds, the bounds and grid of the numeric ones, and the ways in which a
description of one can be wrong.
-/

namespace Cupping

/-- What the values of a parameter are. -/
inductive ParameterKind where
  | integer
  | real
  | category
deriving DecidableEq, Repr

namespace ParameterKind

def name : ParameterKind → String
  | integer => "integer"
  | real => "real"
  | category => "category"

/-- Reads a kind from metadata; on failure gives back the text as it was compared. -/
def read (text : String) : Except String ParameterKind :=
  let given := Text.lowerAscii (Text.trim text)
  if given = "int" ∨ given = "integer" then .ok integer
  else if given = "float" ∨ given = "real" then .ok real
  else if given = "category" then .ok category
  else .error given

def isNumeric : ParameterKind → Bool
  | category => false
  | _ => true

end ParameterKind

/-- Inclusive bounds, and the distance between the values worth trying. -/
structure NumericRange where
  low : Float
  high : Float
  step : Float
deriving DecidableEq, Repr

/-- Why three numbers are no range. -/
inductive RangeFault where
  | notFinite (low high step : Float)
  | inverted (low high : Float)
  | stepNotPositive (step : Float)
deriving DecidableEq, Repr

def RangeFault.message : RangeFault → String
  | notFinite low high step =>
    "range values must be finite (low=" ++ Decimal.display low ++ ", high=" ++ Decimal.display high
      ++ ", step=" ++ Decimal.display step ++ ")"
  | inverted low high =>
    "low " ++ Decimal.display low ++ " exceeds high " ++ Decimal.display high
  | stepNotPositive step => "step " ++ Decimal.display step ++ " must be positive"

namespace NumericRange

def make (low high step : Float) : Except RangeFault NumericRange :=
  if !(low.isFinite && high.isFinite && step.isFinite) then .error (.notFinite low high step)
  else if high < low then .error (.inverted low high)
  else if step ≤ 0.0 then .error (.stepNotPositive step)
  else .ok ⟨low, high, step⟩

def clamp (range : NumericRange) (value : Float) : Float :=
  Binary64.smaller (Binary64.larger value range.low) range.high

/-- The nearest value on the grid that starts at `low`. It can lie past `high` when the bounds are
not a whole number of steps apart. -/
def snap (range : NumericRange) (value : Float) : Float :=
  Binary64.roundWhole ((value - range.low) / range.step) * range.step + range.low

end NumericRange

/-- A parameter column of a dataset. -/
structure Parameter where
  name : String
  kind : ParameterKind
  unit : Option String
  range : Option NumericRange
deriving DecidableEq, Repr

/-- Why a parameter cannot be described as asked. -/
inductive ParameterFault where
  | rangeOfCategory (name : String)
  | badRange (name : String) (cause : RangeFault)
deriving DecidableEq, Repr

def ParameterFault.message : ParameterFault → String
  | rangeOfCategory name => name ++ ": category parameters have no range"
  | badRange name cause => name ++ ": Invalid input: " ++ cause.message

namespace Parameter

def numeric (name : String) (kind : ParameterKind) (low high step : Float) :
    Except ParameterFault Parameter :=
  if !kind.isNumeric then .error (.rangeOfCategory name)
  else match NumericRange.make low high step with
    | .error cause => .error (.badRange name cause)
    | .ok range => .ok ⟨name, kind, none, some range⟩

def category (name : String) : Parameter :=
  ⟨name, .category, none, none⟩

end Parameter
end Cupping
