import Cupping.Row
import Cupping.RunId
import Cupping.Scoring

/-!
Optimizer runs, as the service reports them: the run itself, its latest trial, and the events that
tell how it goes on.
-/

namespace Cupping

/-- How far a run has come. -/
inductive RunStatus where
  | idle
  | running
  | finished
  | error
deriving DecidableEq, Repr, Inhabited

def RunStatus.name : RunStatus → String
  | idle => "idle"
  | running => "running"
  | finished => "finished"
  | error => "error"

/-- Whether a suggested trial has got its score. -/
inductive TrialState where
  | suggested
  | scored
deriving DecidableEq, Repr

def TrialState.name : TrialState → String
  | suggested => "suggested"
  | scored => "scored"

/-- The latest trial of a run. -/
structure RunTrial where
  id : Int64
  number : UInt32
  parameters : ParameterSet
  score : Option Float
  state : TrialState
deriving DecidableEq

/-- News of a run. -/
structure RunEvent where
  trialNumber : UInt32
  status : RunStatus
  bestScore : Option Float
  bestParameters : Option ParameterSet
  lastParameters : Option ParameterSet
  /-- The score of the trial, once it has one. -/
  lastScore : Option Float
deriving DecidableEq

/-- A run. -/
structure Run where
  id : RunId
  status : RunStatus
  bestScore : Option Float
  bestParameters : Option ParameterSet
  trialCount : UInt32
  trialLimit : UInt32
  method : ScoringMethod
  persons : List String
  /-- The time of creation as the service writes it. -/
  createdAt : Option String
  latestTrial : Option RunTrial
deriving DecidableEq

namespace Run

/-- Whether nothing more will happen to the run. -/
def isFinished (run : Run) : Bool :=
  run.status = .finished

/-- The latest trial, while it still needs a score. -/
def awaiting? (run : Run) : Option RunTrial :=
  run.latestTrial.filter (·.state = .suggested)

/-- The run after an event, which always tells the best values there are by now. -/
def after (run : Run) (event : RunEvent) : Run :=
  { run with
    status := event.status
    bestScore := event.bestScore
    bestParameters := event.bestParameters }

end Run

/-- What a run needs from its user. -/
inductive RunPhase where
  | idle
  | running
  | waitingForScore
  | finished
  | error
deriving DecidableEq, Repr

namespace RunPhase

def name : RunPhase → String
  | idle => "idle"
  | running => "running"
  | waitingForScore => "waiting_for_score"
  | finished => "finished"
  | error => "error"

def display : RunPhase → String
  | waitingForScore => "waiting for score"
  | other => other.name

def ofStatus : RunStatus → RunPhase
  | .idle => idle
  | .running => running
  | .finished => finished
  | .error => error

/-- The phase of a tracked run, idle while there is none. -/
def ofRun? : Option Run → RunPhase
  | none => idle
  | some run =>
    if run.awaiting?.isSome && !run.isFinished then waitingForScore else ofStatus run.status

end RunPhase

/-- The trials done out of those planned, a trial that needs its score counting as done. -/
def Run.progress (run : Run) : String :=
  let current := run.trialCount.toNat + (if run.awaiting?.isSome then 1 else 0)
  toString (min current run.trialLimit.toNat) ++ "/" ++ toString run.trialLimit.toNat

end Cupping
