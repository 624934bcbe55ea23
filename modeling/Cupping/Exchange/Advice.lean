import Cupping.Advice
import Cupping.Exchange.Run

/-!
The JSON form of recommendations and of what they rest on.
-/

namespace Cupping

namespace Suggestion

def toJson (suggestion : Suggestion) : Json.Value :=
  .record [("name", .text suggestion.name), ("value", suggestion.value.toJson),
    ("unit", .ofText? suggestion.unit), ("fixed", .bool suggestion.fixed)]

def ofJson? (value : Json.Value) : Option Suggestion := do
  let fields ← Json.Record.ofValue? ["name", "value", "unit", "fixed"] value
  some
    { name := ← fields.required "name" Json.Value.text?
      value := ← fields.required "value" Cell.ofJson?
      unit := ← fields.optional "unit" Json.Value.text?
      fixed := ← fields.defaulted "fixed" false Json.Value.bool? }

end Suggestion

namespace AdviceResponse

def toJson (response : AdviceResponse) : Json.Value :=
  .record [("score", .ofFloat? response.score),
    ("suggested_parameters", .list (response.suggestions.map Suggestion.toJson))]

def ofJson? (value : Json.Value) : Option AdviceResponse := do
  let fields ← Json.Record.ofValue? ["score", "suggested_parameters"] value
  some
    { score := ← fields.optional "score" Json.Value.float?
      suggestions := ← fields.defaulted "suggested_parameters" []
        (Json.Value.listOf? Suggestion.ofJson?) }

end AdviceResponse

def Trial.toJson (trial : Trial) : Json.Value :=
  .record [("original_index", .number (.whole trial.index)),
    ("objective", .number (.real trial.objective)), ("row", trial.row.toJson)]

def Ranking.toJson (ranking : Ranking) : Json.Value :=
  .record [("method", .text ranking.method.name),
    ("selected_persons", textsToJson ranking.selected), ("score_fields", textsToJson ranking.scorers),
    ("parameter_keys", textsToJson ranking.parameterNames),
    ("historical", .list (ranking.trials.map Trial.toJson)),
    ("fixed_parameters", ParameterSet.toJson ranking.fixed)]

def Insight.HistoryPoint.toJson (point : HistoryPoint) : Json.Value :=
  .record [("index", .number (.whole point.index)), ("objective", .number (.real point.objective)),
    ("best_so_far", .number (.real point.bestSoFar))]

def Insight.Importance.toJson (item : Importance) : Json.Value :=
  .record [("name", .text item.name), ("importance", .number (.real item.importance))]

end Cupping
