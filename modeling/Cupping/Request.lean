import Cupping.Fault
import Cupping.Run

/-!
What is asked of the service. A request is checked before it is sent.
-/

namespace Cupping

/-- The request to start a run. -/
structure StartRequest where
  method : ScoringMethod
  trials : UInt32
  persons : List String
deriving DecidableEq, Repr

namespace StartRequest

/-- The most trials a run can have. -/
def maxTrials : Nat := 200

/-- A request with a possible number of trials and without blank names. -/
def make (method : ScoringMethod) (trials : UInt32) (persons : List String) :
    Except Fault StartRequest :=
  if trials = 0 ∨ maxTrials < trials.toNat then
    .error (.input ("n_trials must be between 1 and " ++ toString maxTrials ++ " (got "
      ++ toString trials.toNat ++ ")"))
  else .ok ⟨method, trials, (persons.map Text.trim).filter (!·.isEmpty)⟩

end StartRequest

/-- The request to score a trial. -/
structure ScoreRequest where
  trialId : Int64
  score : Float
deriving DecidableEq, Repr

namespace ScoreRequest

def isScore (score : Float) : Bool :=
  score.isFinite && !decide (score < 0.0) && !decide (10.0 < score)

def make (trialId : Int64) (score : Float) : Except Fault ScoreRequest :=
  if isScore score then .ok ⟨trialId, score⟩
  else .error (.input ("score must be between 0 and 10 (got " ++ Decimal.display score ++ ")"))

end ScoreRequest

/-- The request for a recommendation. -/
structure AdviceRequest where
  /-- What the names of the files of the dataset start with. -/
  stem : String
  method : ScoringMethod
  persons : List String
  bestOnly : Bool
  weight : Float
deriving DecidableEq, Repr

def AdviceRequest.hasWeight (request : AdviceRequest) : Bool :=
  request.weight.isFinite && decide (0.0 ≤ request.weight) && decide (request.weight ≤ 1.0)

/-- Why a request for a recommendation is rejected, if it is. -/
def AdviceRequest.fault? (request : AdviceRequest) : Option Fault :=
  if !request.hasWeight then
    some (.input ("prior_weight must be between 0 and 1 (got " ++ Decimal.display request.weight
      ++ ")"))
  else if Text.isBlank request.stem then some (.input "dataset_prefix is required")
  else none

end Cupping
