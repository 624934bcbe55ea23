import Cupping.Advice
import Cupping.Console.Arguments
import Cupping.Settings

/-!
What the program can be told to do. Options for settings can be given before the name of a command
and behind it; what stands behind it counts more.
-/

namespace Cupping.Console

/-- A thing to do. -/
inductive Command where
  /-- Recommend a brew for the dataset with a name, as lines or as data. -/
  | recommend (stem : String) (preferences : Preferences) (asData : Bool)
  /-- Show the history of the dataset with a name. -/
  | insights (stem : String) (preferences : Preferences)
  /-- Ask the service for a recommendation. -/
  | adviseRemotely (request : AdviceRequest)
  | listRuns
  /-- Start a run, and maybe follow it. -/
  | start (request : StartRequest) (watch : Bool)
  | watch (id : RunId)
  | submit (id : RunId) (score : Float)
deriving DecidableEq

/-- What the program is told. -/
structure CommandLine where
  options : SettingsOptions
  command : Command
deriving DecidableEq

/-- The whole number that a text of digits with an optional sign stands for. -/
def integer? (text : String) : Option Int :=
  let (negative, digits) := Decimal.splitSign text.toList
  if digits.isEmpty || !digits.all Char.isDigit then none
  else
    let value := Int.ofNat (Decimal.digitsValue digits)
    some (if negative then -value else value)

def trials? (text : String) : Option UInt32 :=
  (integer? text).bind fun n =>
    if 0 ≤ n ∧ n < Nat.pow 2 32 then some (UInt32.ofNat n.toNat) else none

/-- The number of trials when nothing is said. -/
def defaultTrials : UInt32 := 10

def isRunId (text : String) : Bool :=
  (RunId.ofText? text).isSome

def isNumber (text : String) : Bool :=
  (Decimal.read? text).isSome

def settingsRules : List OptionRule :=
  [⟨"api-url", false, fun _ => true⟩, ⟨"token", false, fun _ => true⟩,
    ⟨"config", false, (!·.isEmpty)⟩, ⟨"data-dir", false, (!·.isEmpty)⟩]

def methodRule : OptionRule :=
  ⟨"method", false, fun text => (ScoringMethod.ofText? text).isSome⟩

def personsRule : OptionRule :=
  ⟨"persons", true, fun _ => true⟩

def selectionRules : List OptionRule :=
  [⟨"dataset", false, fun _ => true⟩, methodRule, personsRule]

def weightRule : OptionRule :=
  ⟨"weight", false, isNumber⟩

def trialsRule : OptionRule :=
  ⟨"trials", false, fun text => (trials? text).isSome⟩

def outerGrammar : Grammar :=
  ⟨settingsRules, [], [], true, true⟩

def innerGrammar (options : List OptionRule) (flags : List String)
    (operands : List (String → Bool)) : Grammar :=
  ⟨settingsRules ++ options, flags, operands, false, false⟩

def grammar? : String → Option Grammar
  | "recommend" => some (innerGrammar (selectionRules ++ [weightRule]) ["best", "json"] [])
  | "insights" => some (innerGrammar selectionRules [] [])
  | "remote-recommend" => some (innerGrammar (selectionRules ++ [weightRule]) ["best"] [])
  | "runs" => some (innerGrammar [] [] [])
  | "start" => some (innerGrammar [methodRule, trialsRule, personsRule] ["watch"] [])
  | "watch" => some (innerGrammar [] [] [isRunId])
  | "submit" => some (innerGrammar [] [] [isRunId, isNumber])
  | _ => none

namespace Given

def method (given : Given) : ScoringMethod :=
  ((given.value? "method").bind ScoringMethod.ofText?).getD .median

/-- The persons, in lists with commas between them. -/
def persons (given : Given) : List String :=
  (given.valuesOf "persons").flatMap fun value =>
    (Text.splitAt ',' value.toList).map String.ofList

def weight (given : Given) : Float :=
  ((given.value? "weight").bind Decimal.read?).getD Preferences.defaultWeight

def preferences (given : Given) : Preferences :=
  ⟨given.method, given.persons, given.weight, given.has "best"⟩

def adviceRequest (given : Given) (stem : String) : AdviceRequest :=
  ⟨stem, given.method, given.persons, given.has "best", given.weight⟩

/-- The request for a run, which is still to be checked. -/
def startRequest (given : Given) : StartRequest :=
  ⟨given.method, ((given.value? "trials").bind trials?).getD defaultTrials, given.persons⟩

/-- The options for settings, those behind the command before those in front of it. -/
def settings (outer inner : Given) : SettingsOptions :=
  let value (name : String) := inner.value? name <|> outer.value? name
  ⟨value "api-url", value "token", value "config", value "data-dir"⟩

end Given

namespace Command

/-- The command with a name, unless something is missing. -/
def ofGiven? (name : String) (given : Given) : Option Command :=
  match name, given.operands with
  | "recommend", _ =>
    (given.value? "dataset").map fun stem => .recommend stem given.preferences (given.has "json")
  | "insights", _ => (given.value? "dataset").map fun stem => .insights stem given.preferences
  | "remote-recommend", _ =>
    (given.value? "dataset").map fun stem => .adviseRemotely (given.adviceRequest stem)
  | "runs", _ => some .listRuns
  | "start", _ => some (.start given.startRequest (given.has "watch"))
  | "watch", [id] => (RunId.ofText? id).map .watch
  | "submit", [id, score] => do return .submit (← RunId.ofText? id) (← Decimal.read? score)
  | _, _ => none

def isLive : Command → Bool
  | .start _ follow => follow
  | .watch _ => true
  | _ => false

/-- The files that a command reads when datasets are in some directory. -/
def files (directory : String) : Command → List String
  | .recommend stem .. | .insights stem _ =>
    [Library.dataPath directory stem, Library.metadataPath directory stem]
  | _ => []

/-- Why there is nothing to do when help is asked for on some commands. -/
def helpStop : List String → Stop
  | [] | ["help"] => .help
  | [name] => if (grammar? name).isSome then .help else .misuse
  | _ => .misuse

end Command

namespace CommandLine

def read (arguments : List String) : Except Stop CommandLine := do
  match ← outerGrammar.read .empty arguments with
  | (_, []) => .error .misuse
  | (outer, name :: rest) =>
    if name = "help" then .error (Command.helpStop rest)
    else
      match grammar? name with
      | none => .error .misuse
      | some grammar =>
        let (inner, _) ← grammar.read .empty rest
        match Command.ofGiven? name inner with
        | some command => .ok ⟨Given.settings outer inner, command⟩
        | none => .error .misuse

end CommandLine
end Cupping.Console
