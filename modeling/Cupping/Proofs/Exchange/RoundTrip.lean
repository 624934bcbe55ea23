import Cupping.EventStream.Events
import Cupping.Exchange.Advice
import Cupping.Exchange.Request
import Cupping.Proofs.Exchange.Fields

/-!
What is exchanged as JSON text comes back as it was: runs and their trials and events, requests,
recommendations, descriptions of parameters, and the cells of rows. Texts, identifiers and whole
numbers are arbitrary. Of the doubles it is assumed that the text of each one reads back.
-/

namespace Cupping

open Json Json.Record

@[simp]
theorem Cell.ofJson?_toJson (cell : Cell) : Cell.ofJson? cell.toJson = some cell := by
  cases cell <;> rfl

@[simp]
theorem ParameterSet.ofJson?_toJson (parameters : ParameterSet) :
    ParameterSet.ofJson? (ParameterSet.toJson parameters) = some parameters := by
  have members (entries : List (String × Cell)) :
      ((entries.map fun entry => (entry.1, entry.2.toJson)).map fun member =>
          (some member.1, member.2)).mapM (Json.Value.member? Cell.ofJson?) = some entries := by
    induction entries with
    | nil => rfl
    | cons entry rest ih =>
      rw [List.map_cons, List.map_cons, List.mapM_cons, ih, Json.Value.member?,
        Cell.ofJson?_toJson]
      rfl
  rw [ofJson?, toJson, Json.Value.record, Json.Value.mapOf?, members, Option.map_some,
    NameMap.ofList_entries]

theorem Row.ofJson?_toJson (row : Row) : Row.ofJson? row.toJson = some row := by
  rw [ofJson?, toJson, ParameterSet.ofJson?_toJson, Option.map_some]

@[simp]
theorem NumericRange.ofJson?_toJson (range : NumericRange) :
    NumericRange.ofJson? range.toJson = some range := by
  have fields : ofValue? ["low", "high", "step"] range.toJson = some (slots _ _) :=
    ofValue?_record (by simp) _
  rw [ofJson?, fields]
  simp [List.lookup_cons]

@[simp]
theorem RunTrial.ofJson?_toJson (trial : RunTrial) :
    RunTrial.ofJson? trial.toJson = some trial := by
  have fields : ofValue? fieldNames trial.toJson = some (slots fieldNames _) :=
    ofValue?_record (by simp) fieldNames
  rw [ofJson?, fields]
  simp [fieldNames, List.lookup_cons]

@[simp]
theorem RunEvent.orNull_parametersToJson (parameters : Option ParameterSet) :
    orNull ParameterSet.ofJson? (parametersToJson parameters) = some parameters :=
  Value.orNull_map ParameterSet.ofJson?_toJson (fun _ => nofun) parameters

theorem RunEvent.ofJson?_toJson (event : RunEvent) :
    RunEvent.ofJson? event.toJson = some event := by
  have fields : ofValue? fieldNames event.toJson = some (slots fieldNames _) :=
    ofValue?_record (by simp) fieldNames
  rw [ofJson?, fields]
  simp [fieldNames, List.lookup_cons]

theorem Run.ofJson?_toJson (run : Run) : Run.ofJson? run.toJson = some run := by
  have fields : ofValue? fieldNames run.toJson = some (slots fieldNames _) :=
    ofValue?_record (by simp) fieldNames
  have latest := Value.orNull_map RunTrial.ofJson?_toJson (fun _ => nofun) run.latestTrial
  rw [ofJson?, fields]
  simp [fieldNames, List.lookup_cons, latest]

theorem StartRequest.ofJson?_toJson (request : StartRequest) :
    StartRequest.ofJson? request.toJson = some request := by
  have fields : ofValue? ["method", "n_trials", "selected_persons"] request.toJson =
      some (slots _ _) := ofValue?_record (by simp) _
  rw [ofJson?, fields]
  simp [List.lookup_cons]

theorem ScoreRequest.ofJson?_toJson (request : ScoreRequest) :
    ScoreRequest.ofJson? request.toJson = some request := by
  have fields : ofValue? ["trial_id", "score"] request.toJson = some (slots _ _) :=
    ofValue?_record (by simp) _
  rw [ofJson?, fields]
  simp [List.lookup_cons]

theorem AdviceRequest.ofJson?_toJson (request : AdviceRequest) :
    AdviceRequest.ofJson? request.toJson = some request := by
  obtain ⟨stem, method, persons, bestOnly, weight⟩ := request
  cases persons with
  | nil =>
    have fields : ofValue? fieldNames (toJson ⟨stem, method, [], bestOnly, weight⟩) =
        some (slots fieldNames _) := ofValue?_record (by simp [personsToJson]) fieldNames
    rw [ofJson?, fields]
    simp [fieldNames, List.lookup_cons, personsToJson]
  | cons first more =>
    have fields : ofValue? fieldNames (toJson ⟨stem, method, first :: more, bestOnly, weight⟩) =
        some (slots fieldNames _) := ofValue?_record (by simp [personsToJson]) fieldNames
    rw [ofJson?, fields]
    simp [fieldNames, List.lookup_cons, personsToJson]

theorem Suggestion.ofJson?_toJson (suggestion : Suggestion) :
    Suggestion.ofJson? suggestion.toJson = some suggestion := by
  have fields : ofValue? ["name", "value", "unit", "fixed"] suggestion.toJson =
      some (slots _ _) := ofValue?_record (by simp) _
  rw [ofJson?, fields]
  simp [List.lookup_cons]

theorem AdviceResponse.ofJson?_toJson (response : AdviceResponse) :
    AdviceResponse.ofJson? response.toJson = some response := by
  have fields : ofValue? ["score", "suggested_parameters"] response.toJson =
      some (slots _ _) := ofValue?_record (by simp) _
  have lines := Value.listOf?_map Suggestion.ofJson?_toJson response.suggestions
  rw [ofJson?, fields]
  simp [List.lookup_cons, lines]

theorem Parameter.ofJson?_toJson (parameter : Parameter) :
    Parameter.ofJson? parameter.toJson = some parameter := by
  have fields : ofValue? ["name", "kind", "unit", "range"] parameter.toJson =
      some (slots _ _) := ofValue?_record (by simp) _
  have range := Value.orNull_map NumericRange.ofJson?_toJson (fun _ => nofun) parameter.range
  rw [ofJson?, fields]
  simp [List.lookup_cons, range]

/-! The doubles in what is exchanged. -/

def Cell.floats : Cell → List Float
  | number value => [value]
  | text _ => []

def ParameterSet.floats (parameters : ParameterSet) : List Float :=
  parameters.entries.flatMap fun entry => entry.2.floats

def Row.floats (row : Row) : List Float :=
  ParameterSet.floats row.cells

def NumericRange.floats (range : NumericRange) : List Float :=
  [range.low, range.high, range.step]

def Parameter.floats (parameter : Parameter) : List Float :=
  parameter.range.toList.flatMap NumericRange.floats

def RunTrial.floats (trial : RunTrial) : List Float :=
  ParameterSet.floats trial.parameters ++ trial.score.toList

def RunEvent.floats (event : RunEvent) : List Float :=
  event.bestScore.toList ++ event.bestParameters.toList.flatMap ParameterSet.floats ++
    event.lastParameters.toList.flatMap ParameterSet.floats ++ event.lastScore.toList

def Run.floats (run : Run) : List Float :=
  run.bestScore.toList ++ run.bestParameters.toList.flatMap ParameterSet.floats ++
    run.latestTrial.toList.flatMap RunTrial.floats

def ScoreRequest.floats (request : ScoreRequest) : List Float :=
  [request.score]

def AdviceRequest.floats (request : AdviceRequest) : List Float :=
  [request.weight]

def Suggestion.floats (suggestion : Suggestion) : List Float :=
  suggestion.value.floats

def AdviceResponse.floats (response : AdviceResponse) : List Float :=
  response.score.toList ++ response.suggestions.flatMap Suggestion.floats

/-! With doubles that read back, all of it is plain data. -/

theorem isPlain_wordToJson (value : UInt32) : (wordToJson value).IsPlain := by
  have high := value.toNat_lt
  apply Value.isPlain_whole
  all_goals
    simp only [Nat.pow_eq]
    omega

theorem isPlain_toInt (value : Int64) : (Value.number (.whole value.toInt)).IsPlain := by
  have low := value.le_toInt
  have high := value.toInt_lt
  apply Value.isPlain_whole
  all_goals
    simp only [Nat.pow_eq]
    omega

theorem isPlain_textsToJson (values : List String) : (textsToJson values).IsPlain := by
  apply Value.IsPlain.list
  intro item member
  obtain ⟨text, -, rfl⟩ := List.mem_map.mp member
  exact .text text

theorem Cell.isPlain_toJson {cell : Cell} (back : ∀ x ∈ cell.floats, ReadsBack x) :
    cell.toJson.IsPlain := by
  cases cell with
  | number value => exact Value.isPlain_real (back value List.mem_cons_self)
  | text value => exact .text value

theorem ParameterSet.isPlain_toJson (parameters : ParameterSet)
    (back : ∀ x ∈ ParameterSet.floats parameters, ReadsBack x) :
    (ParameterSet.toJson parameters).IsPlain := by
  apply Value.IsPlain.record
  intro member held
  obtain ⟨entry, present, rfl⟩ := List.mem_map.mp held
  exact Cell.isPlain_toJson fun x inside => back x (List.mem_flatMap.mpr ⟨entry, present, inside⟩)

theorem isPlain_optional {α : Type} {write : α → Value} {floats : α → List Float}
    (plain : ∀ a, (∀ x ∈ floats a, ReadsBack x) → (write a).IsPlain) {given : Option α}
    (back : ∀ x ∈ given.toList.flatMap floats, ReadsBack x) :
    ((given.map write).getD .null).IsPlain := by
  apply Value.isPlain_map
  rintro a rfl
  exact plain a fun x inside => back x (by simpa using inside)

theorem isPlain_score {given : Option Float} (back : ∀ x ∈ given.toList, ReadsBack x) :
    (Value.ofFloat? given).IsPlain :=
  Value.isPlain_ofFloat? fun x held => back x (Option.mem_toList.mpr held)

/-- A record is plain if all of its fields are, one after the other. -/
theorem isPlain_fields {members : List (String × Value)}
    (plain : members.foldr (fun member rest => member.2.IsPlain ∧ rest) True) :
    (Value.record members).IsPlain := by
  apply Value.IsPlain.record
  induction members with
  | nil => nofun
  | cons member rest ih => exact List.forall_mem_cons.mpr ⟨plain.1, ih plain.2⟩

theorem Row.isPlain_toJson {row : Row} (back : ∀ x ∈ row.floats, ReadsBack x) :
    row.toJson.IsPlain :=
  ParameterSet.isPlain_toJson row.cells back

theorem NumericRange.isPlain_toJson (range : NumericRange)
    (back : ∀ x ∈ range.floats, ReadsBack x) : range.toJson.IsPlain := by
  obtain ⟨low, back⟩ := List.forall_mem_cons.mp back
  obtain ⟨high, step⟩ := List.forall_mem_cons.mp back
  exact isPlain_fields ⟨Value.isPlain_real low, Value.isPlain_real high,
    Value.isPlain_real (List.forall_mem_singleton.mp step), trivial⟩

theorem Parameter.isPlain_toJson {parameter : Parameter}
    (back : ∀ x ∈ parameter.floats, ReadsBack x) : parameter.toJson.IsPlain :=
  isPlain_fields ⟨.text _, .text _, Value.isPlain_ofText? _,
    isPlain_optional NumericRange.isPlain_toJson back, trivial⟩

theorem RunTrial.isPlain_toJson (trial : RunTrial) (back : ∀ x ∈ trial.floats, ReadsBack x) :
    trial.toJson.IsPlain := by
  obtain ⟨parameters, score⟩ := List.forall_mem_append.mp back
  exact isPlain_fields ⟨isPlain_toInt _, isPlain_wordToJson _,
    ParameterSet.isPlain_toJson _ parameters, isPlain_score score, .text _, trivial⟩

theorem RunEvent.isPlain_toJson {event : RunEvent} (back : ∀ x ∈ event.floats, ReadsBack x) :
    event.toJson.IsPlain := by
  obtain ⟨back, lastScore⟩ := List.forall_mem_append.mp back
  obtain ⟨back, lastParameters⟩ := List.forall_mem_append.mp back
  obtain ⟨bestScore, bestParameters⟩ := List.forall_mem_append.mp back
  exact isPlain_fields ⟨isPlain_wordToJson _, .text _, isPlain_score bestScore,
    isPlain_optional ParameterSet.isPlain_toJson bestParameters,
    isPlain_optional ParameterSet.isPlain_toJson lastParameters, isPlain_score lastScore, trivial⟩

theorem Run.isPlain_toJson {run : Run} (back : ∀ x ∈ run.floats, ReadsBack x) :
    run.toJson.IsPlain := by
  obtain ⟨back, latestTrial⟩ := List.forall_mem_append.mp back
  obtain ⟨bestScore, bestParameters⟩ := List.forall_mem_append.mp back
  exact isPlain_fields ⟨.text _, .text _, isPlain_score bestScore,
    isPlain_optional ParameterSet.isPlain_toJson bestParameters, isPlain_wordToJson _,
    isPlain_wordToJson _, .text _, isPlain_textsToJson _, Value.isPlain_ofText? _,
    isPlain_optional RunTrial.isPlain_toJson latestTrial, trivial⟩

theorem StartRequest.isPlain_toJson (request : StartRequest) : request.toJson.IsPlain :=
  isPlain_fields ⟨.text _, isPlain_wordToJson _, isPlain_textsToJson _, trivial⟩

theorem ScoreRequest.isPlain_toJson {request : ScoreRequest}
    (back : ∀ x ∈ request.floats, ReadsBack x) : request.toJson.IsPlain :=
  isPlain_fields ⟨isPlain_toInt _, Value.isPlain_real (List.forall_mem_singleton.mp back), trivial⟩

theorem AdviceRequest.isPlain_toJson {request : AdviceRequest}
    (back : ∀ x ∈ request.floats, ReadsBack x) : request.toJson.IsPlain := by
  obtain ⟨stem, method, persons, bestOnly, weight⟩ := request
  have weighted : ReadsBack weight := List.forall_mem_singleton.mp back
  cases persons with
  | nil => exact isPlain_fields ⟨.text _, .text _, .bool _, Value.isPlain_real weighted, trivial⟩
  | cons first more =>
    exact isPlain_fields ⟨.text _, .text _, isPlain_textsToJson _, .bool _,
      Value.isPlain_real weighted, trivial⟩

theorem Suggestion.isPlain_toJson {suggestion : Suggestion}
    (back : ∀ x ∈ suggestion.floats, ReadsBack x) : suggestion.toJson.IsPlain :=
  isPlain_fields ⟨.text _, Cell.isPlain_toJson back, Value.isPlain_ofText? _, .bool _, trivial⟩

theorem AdviceResponse.isPlain_toJson {response : AdviceResponse}
    (back : ∀ x ∈ response.floats, ReadsBack x) : response.toJson.IsPlain := by
  obtain ⟨score, lines⟩ := List.forall_mem_append.mp back
  refine isPlain_fields ⟨isPlain_score score, .list fun item member => ?_, trivial⟩
  obtain ⟨suggestion, held, rfl⟩ := List.mem_map.mp member
  exact Suggestion.isPlain_toJson fun x inside =>
    lines x (List.mem_flatMap.mpr ⟨suggestion, held, inside⟩)

/-- Decoding the JSON text of anything exchanged succeeds and yields what was encoded. A number and
a text that looks like it are told apart. -/
theorem decode?_toJson :
    (∀ run : Run, (∀ x ∈ run.floats, ReadsBack x) →
      decode? Run.ofJson? run.toJson.write = some run) ∧
    (∀ trial : RunTrial, (∀ x ∈ trial.floats, ReadsBack x) →
      decode? RunTrial.ofJson? trial.toJson.write = some trial) ∧
    (∀ event : RunEvent, (∀ x ∈ event.floats, ReadsBack x) →
      RunEvent.ofText? event.toJson.write = some event) ∧
    (∀ request : StartRequest,
      decode? StartRequest.ofJson? request.toJson.write = some request) ∧
    (∀ request : ScoreRequest, (∀ x ∈ request.floats, ReadsBack x) →
      decode? ScoreRequest.ofJson? request.toJson.write = some request) ∧
    (∀ request : AdviceRequest, (∀ x ∈ request.floats, ReadsBack x) →
      decode? AdviceRequest.ofJson? request.toJson.write = some request) ∧
    (∀ response : AdviceResponse, (∀ x ∈ response.floats, ReadsBack x) →
      decode? AdviceResponse.ofJson? response.toJson.write = some response) ∧
    (∀ parameter : Parameter, (∀ x ∈ parameter.floats, ReadsBack x) →
      decode? Parameter.ofJson? parameter.toJson.write = some parameter) ∧
    (∀ parameters : ParameterSet, (∀ x ∈ ParameterSet.floats parameters, ReadsBack x) →
      decode? ParameterSet.ofJson? (ParameterSet.toJson parameters).write = some parameters) ∧
    (∀ row : Row, (∀ x ∈ row.floats, ReadsBack x) →
      decode? Row.ofJson? row.toJson.write = some row) ∧
    (∀ text : String, decode? Cell.ofJson? (Cell.text text).toJson.write = some (.text text)) ∧
    (∀ x : Float, ReadsBack x →
      decode? Cell.ofJson? (Cell.number x).toJson.write = some (.number x)) := by
  refine ⟨?run, ?trial, ?event, ?start, ?score, ?advice, ?response, ?parameter, ?parameters, ?row,
    ?text, ?number⟩
  case run => exact fun run back => decode?_write (Run.isPlain_toJson back) run.ofJson?_toJson
  case trial =>
    exact fun trial back => decode?_write (trial.isPlain_toJson back) trial.ofJson?_toJson
  case event =>
    exact fun event back => decode?_write (RunEvent.isPlain_toJson back) event.ofJson?_toJson
  case start => exact fun request => decode?_write request.isPlain_toJson request.ofJson?_toJson
  case score =>
    exact fun request back =>
      decode?_write (ScoreRequest.isPlain_toJson back) request.ofJson?_toJson
  case advice =>
    exact fun request back =>
      decode?_write (AdviceRequest.isPlain_toJson back) request.ofJson?_toJson
  case response =>
    exact fun response back =>
      decode?_write (AdviceResponse.isPlain_toJson back) response.ofJson?_toJson
  case parameter =>
    exact fun parameter back =>
      decode?_write (Parameter.isPlain_toJson back) parameter.ofJson?_toJson
  case parameters =>
    exact fun parameters back => decode?_write (ParameterSet.isPlain_toJson parameters back)
      (ParameterSet.ofJson?_toJson parameters)
  case row => exact fun row back => decode?_write (Row.isPlain_toJson back) row.ofJson?_toJson
  case text => exact fun text => decode?_write (.text text) rfl
  case number => exact fun x back => decode?_write (Value.isPlain_real back) rfl

/-- A text like a number beside numbers, under names that have to be escaped. -/
def mixedParameters : ParameterSet :=
  NameMap.ofList
    [("bean \"A\"", .text "42"), ("grind\n", .number 3.5), ("température", .number 0.1)]

/-- A trial that waits for its score. -/
def waitingTrial : RunTrial :=
  ⟨-7, 4, mixedParameters, none, .suggested⟩

/-- A run with such a trial, and without a time of creation. -/
def waitingRun : Run :=
  ⟨⟨List.replicate 32 10, rfl⟩, .running, some 8.5, some mixedParameters, 3, 200, .highest,
    ["Ann", "B\\o\x01"], none, some waitingTrial⟩

theorem decode?_waitingRun :
    (∀ x ∈ waitingRun.floats, ReadsBack x) ∧
      decode? Run.ofJson? waitingRun.toJson.write = some waitingRun ∧
      decode? RunTrial.ofJson? waitingTrial.toJson.write = some waitingTrial ∧
      RunEvent.ofText?
          (RunEvent.toJson ⟨4, .error, some 1e300, none, mixedParameters, none⟩).write =
        some ⟨4, .error, some 1e300, none, mixedParameters, none⟩ ∧
      decode? ScoreRequest.ofJson? (ScoreRequest.toJson ⟨-7, 9.25⟩).write = some ⟨-7, 9.25⟩ ∧
      decode? AdviceRequest.ofJson? (AdviceRequest.toJson ⟨"brews_", .mean, [], true, 0.5⟩).write =
        some ⟨"brews_", .mean, [], true, 0.5⟩ ∧
      decode? AdviceResponse.ofJson?
          (AdviceResponse.toJson ⟨some 7.75, [⟨"dose", .number 18, "g", true⟩]⟩).write =
        some ⟨some 7.75, [⟨"dose", .number 18, "g", true⟩]⟩ ∧
      decode? Parameter.ofJson? (Parameter.toJson ⟨"dose", .real, "g", some ⟨14, 20, 0.1⟩⟩).write =
        some ⟨"dose", .real, "g", some ⟨14, 20, 0.1⟩⟩ ∧
      decode? ParameterSet.ofJson? (ParameterSet.toJson mixedParameters).write =
        some mixedParameters ∧
      decode? Row.ofJson? (Row.toJson ⟨mixedParameters⟩).write = some ⟨mixedParameters⟩ ∧
      decode? Cell.ofJson? (Cell.number 42).toJson.write = some (.number 42) := by
  obtain ⟨run, trial, event, -, score, advice, response, parameter, parameters, row, -, number⟩ :=
    decode?_toJson
  have back : ∀ x ∈ waitingRun.floats, ReadsBack x := by decide +kernel
  have mixed : ∀ x ∈ ParameterSet.floats mixedParameters, ReadsBack x := by decide +kernel
  exact ⟨back, run waitingRun back, trial waitingTrial (by decide +kernel),
    event _ (by decide +kernel), score _ (by decide +kernel), advice _ (by decide +kernel),
    response _ (by decide +kernel), parameter _ (by decide +kernel),
    parameters mixedParameters mixed, row ⟨mixedParameters⟩ mixed, number 42 (by decide +kernel)⟩

end Cupping
