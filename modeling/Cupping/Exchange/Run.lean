import Cupping.Exchange.Dataset
import Cupping.Run

/-!
The JSON form of runs, trials and events.
-/

namespace Cupping

def ScoringMethod.ofName? (name : String) : Option ScoringMethod :=
  all.find? (·.name = name)

def ScoringMethod.ofJson? : Json.Value → Option ScoringMethod :=
  Json.Value.choice? ScoringMethod.ofName?

def RunStatus.ofName? (name : String) : Option RunStatus :=
  [idle, running, finished, error].find? (·.name = name)

def RunStatus.ofJson? : Json.Value → Option RunStatus :=
  Json.Value.choice? RunStatus.ofName?

/-- The state of a trial with a name; a scored one may also be called completed. -/
def TrialState.ofName? (name : String) : Option TrialState :=
  if name = "completed" then some scored else [suggested, scored].find? (·.name = name)

def RunId.ofJson? (value : Json.Value) : Option RunId :=
  value.text?.bind RunId.ofText?

def wordToJson (value : UInt32) : Json.Value :=
  .number (.whole value.toNat)

def textsToJson (values : List String) : Json.Value :=
  .list (values.map .text)

def textsOfJson? : Json.Value → Option (List String) :=
  Json.Value.listOf? Json.Value.text?

namespace RunTrial

def fieldNames : List String :=
  ["id", "trial_number", "parameters", "score", "state"]

def toJson (trial : RunTrial) : Json.Value :=
  .record [("id", .number (.whole trial.id.toInt)), ("trial_number", wordToJson trial.number),
    ("parameters", ParameterSet.toJson trial.parameters), ("score", .ofFloat? trial.score),
    ("state", .text trial.state.name)]

def ofJson? (value : Json.Value) : Option RunTrial := do
  let fields ← Json.Record.ofValue? fieldNames value
  some
    { id := ← fields.required "id" Json.Value.integer64?
      number := ← fields.required "trial_number" Json.Value.word32?
      parameters := ← fields.defaulted "parameters" .empty ParameterSet.ofJson?
      score := ← fields.optional "score" Json.Value.float?
      state := ← fields.required "state" (Json.Value.choice? TrialState.ofName?) }

end RunTrial

namespace RunEvent

def fieldNames : List String :=
  ["trial_number", "run_status", "best_score", "best_parameters", "last_trial_parameters",
    "last_trial_score"]

/-- A parameter set or, for an absent one, null. -/
def parametersToJson (parameters : Option ParameterSet) : Json.Value :=
  (parameters.map ParameterSet.toJson).getD .null

def toJson (event : RunEvent) : Json.Value :=
  .record [("trial_number", wordToJson event.trialNumber), ("run_status", .text event.status.name),
    ("best_score", .ofFloat? event.bestScore),
    ("best_parameters", parametersToJson event.bestParameters),
    ("last_trial_parameters", parametersToJson event.lastParameters),
    ("last_trial_score", .ofFloat? event.lastScore)]

def ofJson? (value : Json.Value) : Option RunEvent := do
  let fields ← Json.Record.ofValue? fieldNames value
  some
    { trialNumber := ← fields.required "trial_number" Json.Value.word32?
      status := ← fields.required "run_status" RunStatus.ofJson?
      bestScore := ← fields.optional "best_score" Json.Value.float?
      bestParameters := ← fields.optional "best_parameters" ParameterSet.ofJson?
      lastParameters := ← fields.optional "last_trial_parameters" ParameterSet.ofJson?
      lastScore := ← fields.optional "last_trial_score" Json.Value.float? }

end RunEvent

namespace Run

def fieldNames : List String :=
  ["id", "status", "best_score", "best_params", "trial_count", "n_trials", "method",
    "selected_persons", "created_at", "latest_trial"]

def toJson (run : Run) : Json.Value :=
  .record [("id", .text run.id.write), ("status", .text run.status.name),
    ("best_score", .ofFloat? run.bestScore),
    ("best_params", RunEvent.parametersToJson run.bestParameters),
    ("trial_count", wordToJson run.trialCount), ("n_trials", wordToJson run.trialLimit),
    ("method", .text run.method.name), ("selected_persons", textsToJson run.persons),
    ("created_at", .ofText? run.createdAt),
    ("latest_trial", (run.latestTrial.map RunTrial.toJson).getD .null)]

def ofJson? (value : Json.Value) : Option Run := do
  let fields ← Json.Record.ofValue? fieldNames value
  some
    { id := ← fields.required "id" RunId.ofJson?
      status := ← fields.required "status" RunStatus.ofJson?
      bestScore := ← fields.optional "best_score" Json.Value.float?
      bestParameters := ← fields.optional "best_params" ParameterSet.ofJson?
      trialCount := ← fields.required "trial_count" Json.Value.word32?
      trialLimit := ← fields.required "n_trials" Json.Value.word32?
      method := ← fields.defaulted "method" .median ScoringMethod.ofJson?
      persons := ← fields.defaulted "selected_persons" [] textsOfJson?
      createdAt := ← fields.optional "created_at" Json.Value.text?
      latestTrial := ← fields.optional "latest_trial" RunTrial.ofJson? }

end Run
end Cupping
