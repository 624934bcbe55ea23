import Cupping.Advice
import Cupping.Run

/-!
What the program prints: recommendations, the history of a dataset, runs, and failures.
-/

namespace Cupping.Console

def padRight (width : Nat) (text : String) : String :=
  text ++ String.ofList (List.replicate (width - text.length) ' ')

def padLeft (width : Nat) (text : String) : String :=
  String.ofList (List.replicate (width - text.length) ' ') ++ text

def clockText (seconds : Nat) : String :=
  let part (n : Nat) : String := if n < 10 then "0" ++ toString n else toString n
  part (seconds / 3600 % 24) ++ ":" ++ part (seconds / 60 % 60) ++ ":" ++ part (seconds % 60)

def score (value : Float) : String :=
  Decimal.fixed 2 value

def suggestionLine (suggestion : Suggestion) : String :=
  "  " ++ padRight 16 suggestion.name ++ " " ++ suggestion.value.display ++ " "
    ++ suggestion.unit.getD "" ++ (if suggestion.fixed then " (fixed)" else "")

def adviceLines (advice : Advice) : List String :=
  if advice.isEmpty then ["Not enough scored brews to recommend anything yet."]
  else
    (advice.topScore?.map fun best =>
        "Best logged brew scored " ++ score best ++ ". Try next:").toList
      ++ advice.suggestions.map suggestionLine

def historyLine (point : Insight.HistoryPoint) : String :=
  padLeft 4 (toString point.index) ++ "   " ++ padLeft 9 (score point.objective) ++ "   "
    ++ padLeft 11 (score point.bestSoFar)

def importanceLine (item : Insight.Importance) : String :=
  "  " ++ padRight 16 item.name ++ " " ++ score item.importance

def insightLines (dataset : Dataset) (ranking : Ranking) : List String :=
  let kinds := dataset.parameters.map fun parameter => (parameter.name, parameter.kind)
  "Brew   Objective   Best so far" :: (Insight.history ranking.trials).map historyLine
    ++ "" :: "Parameter importance:"
      :: (Insight.importances ranking.trials kinds).map importanceLine

def trialLines (trial : RunTrial) : List String :=
  ("  Trial " ++ toString trial.number.toNat ++ " waiting for a score:")
    :: trial.parameters.entries.map fun (name, value) =>
      "    " ++ padRight 16 name ++ " " ++ value.display

def runLines (run : Run) : List String :=
  (run.id.write ++ "  " ++ padRight 8 run.status.name ++ "  " ++ toString run.trialCount.toNat
      ++ "/" ++ toString run.trialLimit.toNat ++ " trials  best "
      ++ (run.bestScore.map score).getD "-" ++ "  method " ++ run.method.name)
    :: run.awaiting?.toList.flatMap trialLines

def runListLines (runs : List Run) : List String :=
  if runs.isEmpty then ["No optimizer runs."] else runs.flatMap runLines

/-- The report of a failure, by itself. -/
def failure (text : String) : String :=
  "Error: " ++ text ++ "\n"

/-- The report of a failure in the course of something; every line of the cause is indented. -/
def failureOf (what : String) (cause : Fault) : String :=
  let lines := (Text.splitAt '\n' cause.message.toList).map fun line =>
    "\n    " ++ String.ofList line
  failure (what ++ "\n\nCaused by:" ++ String.join lines)

end Cupping.Console
