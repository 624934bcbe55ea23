import Cupping.Fault
import Cupping.Ranking

/-!
The next brew to try. Among the best trials a category parameter is put to the vote; a numeric one
is averaged, blended with the best trial, and brought back into its bounds and onto its grid.
-/

namespace Cupping.Recommendation

/-- How many of `count` ranked trials are the elite: a quarter, at least three, at most all. -/
def eliteCount (count : Nat) : Nat :=
  min (max 3 (Float.ofNat count * 0.25).toUInt64.toNat) count

/-- Whether a number can be the share of the elite in the blend. -/
def isWeight (weight : Float) : Bool :=
  weight.isFinite && decide (0.0 ≤ weight) && decide (weight ≤ 1.0)

/-- The failure for a number that cannot be a weight. -/
def weightFault : Fault :=
  .input "Elite averaging weight must be between 0 and 1."

/-- One candidate of a vote: the text it is told apart by, its first value, and its votes. -/
structure Candidate where
  text : String
  value : Cell
  votes : Nat
deriving DecidableEq

/-- Counts one vote; a new candidate comes last. -/
def countVote (value : Cell) : List Candidate → List Candidate
  | [] => [⟨value.display, value, 1⟩]
  | candidate :: rest =>
    if candidate.text = value.display then { candidate with votes := candidate.votes + 1 } :: rest
    else candidate :: countVote value rest

/-- The candidates of a list of votes, in the order they first came up. -/
def tally (values : List Cell) : List Candidate :=
  values.foldl (fun candidates value => countVote value candidates) []

/-- The candidate with the most votes, the first one of equals. -/
def winner? : List Candidate → Option Candidate
  | [] => none
  | first :: rest =>
    some (rest.foldl (fun leader next => if leader.votes < next.votes then next else leader) first)

/-- The most frequent value of a parameter; of equally frequent ones the one seen first. -/
def pluralityVote? (elite : List Trial) (name : String) : Option Cell :=
  (winner? (tally (elite.filterMap (·.row.get? name)))).map (·.value)

/-- The last rounding of a numeric suggestion: whole numbers, or two places. -/
def roundFor (kind : ParameterKind) (value : Float) : Float :=
  match kind with
  | .integer => Binary64.roundWhole value
  | _ => Binary64.roundWhole (value * 100.0) / 100.0

/-- The blend of the elite's mean with the best trial, inside the bounds and on the grid. -/
def blend? (elite : List Trial) (best : Trial) (name : String) (kind : ParameterKind)
    (range : NumericRange) (weight : Float) : Option Cell :=
  let values := elite.filterMap (·.row.number? name)
  if values.isEmpty then none
  else (best.row.number? name).map fun bestValue =>
    let blended := weight * Binary64.mean values + (1.0 - weight) * bestValue
    .number (roundFor kind (range.snap (range.clamp blended)))

def suggest? (elite : List Trial) (best : Trial) (weight : Float) (parameter : Parameter) :
    Option Cell :=
  match parameter.kind, parameter.range with
  | .category, _ => pluralityVote? elite parameter.name
  | kind, some range => blend? elite best parameter.name kind range weight
  | _, none => none

/-- The values to try next, for every parameter that is not fixed and has one. Without trials there
are none; with `bestOnly` they are those of the best trial. -/
def recommend (trials : List Trial) (fixed : ParameterSet) (parameters : List Parameter)
    (weight : Float) (bestOnly : Bool) : Except Fault ParameterSet :=
  if !isWeight weight then .error weightFault
  else match trials with
  | [] => .ok .empty
  | best :: _ =>
    let searched := parameters.filter fun parameter => !fixed.contains parameter.name
    if bestOnly then .ok (best.row.project (searched.map Parameter.name))
    else
      let elite := trials.take (eliteCount trials.length)
      .ok (NameMap.ofList (searched.filterMap fun parameter =>
        (suggest? elite best weight parameter).map (parameter.name, ·)))

end Cupping.Recommendation
