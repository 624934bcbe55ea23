import Cupping.Files
import Cupping.Insight
import Cupping.Recommendation
import Cupping.Request

/-!
Advice on the next brew: preferences are checked against a dataset, its brews are ranked, and
every parameter gets a suggestion, or the value it is held at.
-/

namespace Cupping

/-- What the user wants from a recommendation. -/
structure Preferences where
  method : ScoringMethod
  /-- The persons whose scores count; none of them means everybody. -/
  persons : List String
  /-- The share of the elite in the blend. -/
  weight : Float
  bestOnly : Bool
deriving DecidableEq, Repr

namespace Preferences

/-- The share of the elite unless the user says otherwise. -/
def defaultWeight : Float := 0.5

def ofRequest (request : AdviceRequest) : Preferences :=
  ⟨request.method, request.persons, request.weight, request.bestOnly⟩

/-- Why the preferences cannot apply to a dataset with some persons, if they cannot. -/
def fault? (preferences : Preferences) (known : List String) : Option Fault :=
  if !Recommendation.isWeight preferences.weight then some Recommendation.weightFault
  else (preferences.persons.find? (· ∉ known)).map fun person =>
    .input ("Unknown person selection: " ++ person ++ ".")

end Preferences

/-- One line of a recommendation. -/
structure Suggestion where
  name : String
  value : Cell
  unit : Option String
  /-- Whether the dataset holds the parameter at this value. -/
  fixed : Bool
deriving DecidableEq

/-- A recommendation as it is answered to a request. -/
structure AdviceResponse where
  /-- The objective of the best brew so far. -/
  score : Option Float
  suggestions : List Suggestion
deriving DecidableEq

/-- A recommendation with what it rests on. -/
structure Advice where
  ranking : Ranking
  recommendation : ParameterSet
  /-- In the order in which the dataset describes the parameters. -/
  suggestions : List Suggestion
deriving DecidableEq

namespace Advice

/-- The line for one parameter; a fixed value goes before a recommended one. -/
def suggest? (fixed recommendation : ParameterSet) (parameter : Parameter) : Option Suggestion :=
  match fixed.get? parameter.name with
  | some value => some ⟨parameter.name, value, parameter.unit, true⟩
  | none => (recommendation.get? parameter.name).map fun value =>
    ⟨parameter.name, value, parameter.unit, false⟩

def linesFor (parameters : List Parameter) (fixed recommendation : ParameterSet) :
    List Suggestion :=
  parameters.filterMap (suggest? fixed recommendation)

def ofDataset (dataset : Dataset) (preferences : Preferences) : Except Fault Advice :=
  match preferences.fault? dataset.persons with
  | some fault => .error fault
  | none =>
    let ranking := Ranking.ofDataset dataset preferences.method preferences.persons
    match Recommendation.recommend ranking.trials ranking.fixed dataset.parameters
        preferences.weight preferences.bestOnly with
    | .error fault => .error fault
    | .ok recommendation =>
      .ok ⟨ranking, recommendation, linesFor dataset.parameters ranking.fixed recommendation⟩

/-- Whether there is nothing to recommend. -/
def isEmpty (advice : Advice) : Bool :=
  advice.recommendation.isEmpty

def topScore? (advice : Advice) : Option Float :=
  advice.ranking.best?.map Trial.objective

def response (advice : Advice) : AdviceResponse :=
  ⟨advice.topScore?, advice.suggestions⟩

end Advice

/-- The datasets in a directory. -/
structure Library where
  directory : String
  source : TextSource

namespace Library

/-- The path of the table of brews of a dataset, whose files have names that start with the given
text. -/
def dataPath (directory stem : String) : String :=
  joinPath directory (stem ++ "data.csv")

def metadataPath (directory stem : String) : String :=
  joinPath directory (stem ++ "meta.csv")

def text (library : Library) (path : String) : Except DatasetFault String :=
  (library.source path).mapError fun fault => .unreadable path fault.message

def load (library : Library) (stem : String) : Except DatasetFault Dataset := do
  let data ← library.text (dataPath library.directory stem)
  let metadata ← library.text (metadataPath library.directory stem)
  Dataset.ofTexts stem data metadata

/-- The same, reporting the failure. A weight that cannot be is reported before any file is read. -/
def loadFor (library : Library) (stem : String) (preferences : Preferences) :
    Except Fault Dataset :=
  if !Recommendation.isWeight preferences.weight then .error Recommendation.weightFault
  else (library.load stem).mapError fun fault => .dataset fault.message

def advise (library : Library) (stem : String) (preferences : Preferences) :
    Except Fault Advice := do
  Advice.ofDataset (← library.loadFor stem preferences) preferences

def history (library : Library) (stem : String) (preferences : Preferences) :
    Except Fault (Dataset × Ranking) := do
  let dataset ← library.loadFor stem preferences
  match preferences.fault? dataset.persons with
  | some fault => .error fault
  | none => .ok (dataset, Ranking.ofDataset dataset preferences.method preferences.persons)

def answer (library : Library) (request : AdviceRequest) : Except Fault AdviceResponse := do
  match request.fault? with
  | some fault => .error fault
  | none => return (← library.advise request.stem (.ofRequest request)).response

end Library
end Cupping
