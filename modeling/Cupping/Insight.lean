import Cupping.Ranking

/-!
What the ranked trials show: how the objective went over time, and how much each numeric parameter
has to do with it.
-/

namespace Cupping.Insight

/-- One trial in the course of time. -/
structure HistoryPoint where
  index : Nat
  objective : Float
  /-- The best objective up to here. -/
  bestSoFar : Float
deriving DecidableEq, Repr

/-- The points of trials in the order of time, after a best objective so far. -/
def pointsFrom : Float → List Trial → List HistoryPoint
  | _, [] => []
  | best, trial :: rest =>
    let best := Binary64.larger best trial.objective
    ⟨trial.index, trial.objective, best⟩ :: pointsFrom best rest

/-- The objectives in the order of the dataset, with their running maximum. -/
def history (trials : List Trial) : List HistoryPoint :=
  pointsFrom (-(1.0 / 0.0)) (trials.mergeSort fun a b => decide (a.index ≤ b.index))

/-- The sums that a correlation is made of. -/
structure Moments where
  product : Float
  left : Float
  right : Float

/-- The sums of the products and squares of deviations from two means. -/
def moments (samples : List (Float × Float)) (leftMean rightMean : Float) : Moments :=
  samples.foldl (fun sums sample =>
    let dx := sample.1 - leftMean
    let dy := sample.2 - rightMean
    ⟨sums.product + dx * dy, sums.left + dx * dx, sums.right + dy * dy⟩) ⟨0.0, 0.0, 0.0⟩

/-- The correlation coefficient of two lists of one length, if there are two samples and both
vary. -/
def correlation? (xs ys : List Float) : Option Float :=
  if xs.length ≠ ys.length ∨ xs.length < 2 then none
  else
    let sums := moments (xs.zip ys) (Binary64.mean xs) (Binary64.mean ys)
    let scale := (sums.left * sums.right).sqrt
    if scale == 0.0 || !scale.isFinite then none else some (sums.product / scale)

/-- How much a parameter has to do with the objective. -/
structure Importance where
  name : String
  importance : Float
deriving DecidableEq, Repr

/-- The values of a parameter next to the objectives of the same trials. -/
def samples (trials : List Trial) (name : String) : List (Float × Float) :=
  trials.filterMap fun trial => (trial.row.number? name).map (·, trial.objective)

/-- The importance of one parameter, where it can be measured. -/
def importance? (trials : List Trial) (name : String) : Option Importance :=
  let pairs := samples trials name
  (correlation? (pairs.map Prod.fst) (pairs.map Prod.snd)).map fun r => ⟨name, r.abs⟩

/-- The numeric parameters by importance, the largest first. -/
def importances (trials : List Trial) (kinds : List (String × ParameterKind)) : List Importance :=
  let measured := kinds.filterMap fun (name, kind) =>
    if kind.isNumeric then importance? trials name else none
  measured.mergeSort fun a b => Binary64.totalLe b.importance a.importance

end Cupping.Insight
