import Cupping.Dataset
import Cupping.Scoring

/-!
The brews of a dataset that can be learned from, best first, and the parameters it holds fixed.
-/

namespace Cupping

/-- A complete row with its objective. -/
structure Trial where
  /-- The place of the row among all rows of the dataset. -/
  index : Nat
  objective : Float
  row : Row
deriving DecidableEq

/-- What a dataset says about the next brew. -/
structure Ranking where
  method : ScoringMethod
  /-- The persons asked for; none of them means all of the dataset. -/
  selected : List String
  /-- The persons whose scores count. -/
  scorers : List String
  parameterNames : List String
  /-- Best first; equal objectives in the order of their rows. -/
  trials : List Trial
  /-- The values of the first row that lacks some parameter. -/
  fixed : ParameterSet
deriving DecidableEq

namespace Ranking

def isComplete (names : List String) (row : Row) : Bool :=
  names.all row.isPresent

/-- The trial of a numbered row, if the row is complete and somebody scored it. -/
def trialOf? (method : ScoringMethod) (names scorers : List String) (numbered : Row × Nat) :
    Option Trial :=
  if isComplete names numbered.1 then
    (Scoring.score? method numbered.1 scorers).map fun objective =>
      ⟨numbered.2, objective, numbered.1⟩
  else none

/-- The order of trials: the larger objective first. -/
def isBefore (a b : Trial) : Bool :=
  Binary64.totalLe b.objective a.objective

/-- The trials of some rows, best first. -/
def rank (method : ScoringMethod) (names scorers : List String) (rows : List Row) : List Trial :=
  (rows.zipIdx.filterMap (trialOf? method names scorers)).mergeSort isBefore

/-- The values that the first incomplete row holds. -/
def fixedParameters (names : List String) (rows : List Row) : ParameterSet :=
  match rows.find? (!isComplete names ·) with
  | some row => row.project names
  | none => .empty

def ofDataset (dataset : Dataset) (method : ScoringMethod) (selected : List String) : Ranking :=
  let scorers := if selected.isEmpty then dataset.persons else selected
  let names := dataset.parameterNames
  { method, selected, scorers
    parameterNames := names
    trials := rank method names scorers dataset.rows
    fixed := fixedParameters names dataset.rows }

def best? (ranking : Ranking) : Option Trial :=
  ranking.trials.head?

end Ranking
end Cupping
