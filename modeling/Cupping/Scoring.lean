import Cupping.Binary64.Order
import Cupping.Fault
import Cupping.Row

/-!
One objective for a brew out of the scores that several persons gave it.
-/

namespace Cupping

/-- How several scores become one objective. -/
inductive ScoringMethod where
  | mean
  | median
  | highest
  | lowest
deriving DecidableEq, Repr, Inhabited

namespace ScoringMethod

/-- The methods in the order they are offered. -/
def all : List ScoringMethod :=
  [mean, median, highest, lowest]

/-- The name of a method, in options and in data exchanged with the service. -/
def name : ScoringMethod → String
  | mean => "mean"
  | median => "median"
  | highest => "highest"
  | lowest => "lowest"

/-- The method with a name, white space around it and the case of its letters aside. -/
def ofText? (text : String) : Option ScoringMethod :=
  all.find? (·.name = Text.lowerAscii (Text.trim text))

def read (text : String) : Except Fault ScoringMethod :=
  match ofText? text with
  | some method => .ok method
  | none =>
    .error (.input ("method must be one of mean, median, highest, lowest (got '" ++ text ++ "')"))

end ScoringMethod

namespace Scoring

/-- The median of some values: the middle one in the total order, or half the sum of the middle
two. -/
def median? (values : List Float) : Option Float :=
  let sorted := values.mergeSort Binary64.totalLe
  let middle := sorted.length / 2
  if sorted.length % 2 = 1 then sorted[middle]?
  else match sorted[middle - 1]?, sorted[middle]? with
    | some below, some above => some ((below + above) / 2.0)
    | _, _ => none

/-- One value out of several; there is none out of none. -/
def aggregate? (method : ScoringMethod) : List Float → Option Float
  | [] => none
  | first :: rest =>
    match method with
    | .mean => some (Binary64.mean (first :: rest))
    | .median => median? (first :: rest)
    | .highest => some (rest.foldl Binary64.larger first)
    | .lowest => some (rest.foldl Binary64.smaller first)

def readings (row : Row) (persons : List String) : List Float :=
  persons.filterMap row.number?

def score? (method : ScoringMethod) (row : Row) (persons : List String) : Option Float :=
  aggregate? method (readings row persons)

end Scoring
end Cupping
