import Cupping.Exchange.Run
import Cupping.Request

/-!
The JSON form of requests.
-/

namespace Cupping

namespace StartRequest

def toJson (request : StartRequest) : Json.Value :=
  .record [("method", .text request.method.name), ("n_trials", wordToJson request.trials),
    ("selected_persons", textsToJson request.persons)]

/-- Reads the request to start a run, possible or not. -/
def ofJson? (value : Json.Value) : Option StartRequest := do
  let fields ← Json.Record.ofValue? ["method", "n_trials", "selected_persons"] value
  some
    { method := ← fields.required "method" ScoringMethod.ofJson?
      trials := ← fields.required "n_trials" Json.Value.word32?
      persons := ← fields.defaulted "selected_persons" [] textsOfJson? }

end StartRequest

namespace ScoreRequest

def toJson (request : ScoreRequest) : Json.Value :=
  .record [("trial_id", .number (.whole request.trialId.toInt)),
    ("score", .number (.real request.score))]

/-- Reads the request to score a trial, possible or not. -/
def ofJson? (value : Json.Value) : Option ScoreRequest := do
  let fields ← Json.Record.ofValue? ["trial_id", "score"] value
  some ⟨← fields.required "trial_id" Json.Value.integer64?,
    ← fields.required "score" Json.Value.float?⟩

end ScoreRequest

namespace AdviceRequest

def fieldNames : List String :=
  ["dataset_prefix", "method", "persons", "best_only", "prior_weight"]

/-- The persons of a request, which are left out when there are none. -/
def personsToJson : List String → List (String × Json.Value)
  | [] => []
  | persons => [("persons", textsToJson persons)]

def toJson (request : AdviceRequest) : Json.Value :=
  .record ([("dataset_prefix", .text request.stem), ("method", .text request.method.name)]
    ++ personsToJson request.persons
    ++ [("best_only", .bool request.bestOnly), ("prior_weight", .number (.real request.weight))])

/-- Reads the request for a recommendation, possible or not. -/
def ofJson? (value : Json.Value) : Option AdviceRequest := do
  let fields ← Json.Record.ofValue? fieldNames value
  some
    { stem := ← fields.required "dataset_prefix" Json.Value.text?
      method := ← fields.required "method" ScoringMethod.ofJson?
      persons := ← fields.defaulted "persons" [] textsOfJson?
      bestOnly := ← fields.required "best_only" Json.Value.bool?
      weight := ← fields.required "prior_weight" Json.Value.float? }

end AdviceRequest
end Cupping
