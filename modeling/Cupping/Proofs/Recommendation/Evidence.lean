import Cupping.Proofs.Recommendation.Lines

/-!
What an advice rests on. Of a ranked row it reads the objective and the values of the parameters,
and only the best trials are looked at; of all other rows it reads the values held fixed.
-/

namespace Cupping

/-- What a ranked row says. -/
structure Evidence where
  objective : Float
  /-- The values of the parameters. -/
  values : ParameterSet

def Trial.evidence (names : List String) (trial : Trial) : Evidence :=
  ⟨trial.objective, trial.row.project names⟩

theorem Trial.get?_evidence {names : List String} {name : String} (named : name ∈ names)
    (trial : Trial) : (trial.evidence names).values.get? name = trial.row.get? name := by
  simp [evidence, Row.get?_project, named]

namespace Recommendation

/-- The trials that are looked at: with `bestOnly` the best one, else the elite. -/
def leading (bestOnly : Bool) (trials : List Trial) : List Trial :=
  trials.take (if bestOnly then 1 else eliteCount trials.length)

/-- The best trial is always looked at. -/
@[simp]
theorem head?_leading (bestOnly : Bool) (trials : List Trial) :
    (leading bestOnly trials).head? = trials.head? := by
  cases trials with
  | nil => simp [leading]
  | cons best rest =>
    have positive : 0 < eliteCount (best :: rest).length := eliteCount_pos (Nat.succ_pos _)
    cases bestOnly with
    | false => simpa [leading, List.head?_take] using Nat.ne_of_gt positive
    | true => rfl

theorem leading_congr {α : Type} {said : Trial → α} {trials others : List Trial}
    (same : trials.map said = others.map said) (bestOnly : Bool) :
    (leading bestOnly trials).map said = (leading bestOnly others).map said := by
  have counted : trials.length = others.length := by
    simpa using congrArg List.length same
  rw [leading, leading, List.map_take, List.map_take, same, counted]

theorem leading_map {change : Trial → Trial} (bestOnly : Bool) (trials : List Trial) :
    leading bestOnly (trials.map change) = (leading bestOnly trials).map change := by
  rw [leading, leading, List.map_take, List.length_map]

section Evidence

variable {names : List String} {name : String} {trials others : List Trial} {best other : Trial}

theorem filterMap_get? {α : Type} (named : name ∈ names) (read : Option Cell → Option α)
    (trials : List Trial) :
    trials.filterMap (fun trial => read (trial.row.get? name)) =
      (trials.map (Trial.evidence names)).filterMap fun said => read (said.values.get? name) := by
  rw [List.filterMap_map]
  refine List.filterMap_congr fun trial _ => ?_
  exact congrArg read (trial.get?_evidence named).symm

theorem pluralityVote?_congr (named : name ∈ names)
    (same : trials.map (Trial.evidence names) = others.map (Trial.evidence names)) :
    pluralityVote? trials name = pluralityVote? others name := by
  have votes := filterMap_get? named id trials
  rw [same, ← filterMap_get? named id others] at votes
  exact congrArg (fun votes => (winner? (tally votes)).map Candidate.value) votes

theorem blend?_congr (named : name ∈ names)
    (same : trials.map (Trial.evidence names) = others.map (Trial.evidence names))
    (first : best.evidence names = other.evidence names) (kind : ParameterKind)
    (range : NumericRange) (weight : Float) :
    blend? trials best name kind range weight = blend? others other name kind range weight := by
  have numbers := filterMap_get? named (·.bind Cell.number?) trials
  rw [same, ← filterMap_get? named (·.bind Cell.number?) others] at numbers
  have values : trials.filterMap (·.row.number? name) = others.filterMap (·.row.number? name) :=
    numbers
  have bestValue : best.row.number? name = other.row.number? name := by
    rw [Row.number?, Row.number?, ← best.get?_evidence named, first, other.get?_evidence named]
  rw [blend?, blend?, values, bestValue]

theorem suggest?_congr {parameter : Parameter} (named : parameter.name ∈ names)
    (same : trials.map (Trial.evidence names) = others.map (Trial.evidence names))
    (first : best.evidence names = other.evidence names) (weight : Float) :
    suggest? trials best weight parameter = suggest? others other weight parameter := by
  unfold suggest?
  split
  · exact pluralityVote?_congr named same
  · exact blend?_congr named same first ..
  · rfl

/-- What is suggested depends on the trials that are looked at, and on what they say. -/
theorem choice?_congr {bestOnly : Bool} {parameter : Parameter} (named : parameter.name ∈ names)
    (same : (leading bestOnly trials).map (Trial.evidence names) =
      (leading bestOnly others).map (Trial.evidence names)) (weight : Float) :
    choice? trials weight bestOnly parameter = choice? others weight bestOnly parameter := by
  have heads := congrArg List.head? same
  simp only [List.head?_map, head?_leading] at heads
  match trials, others, heads with
  | [], [], _ => rfl
  | best :: rest, other :: others, heads =>
    have first : best.evidence names = other.evidence names := by simpa using heads
    cases bestOnly with
    | false => exact suggest?_congr named same first weight
    | true =>
      have value : best.row.get? parameter.name = other.row.get? parameter.name := by
        rw [← best.get?_evidence named, first, other.get?_evidence named]
      simpa [choice?] using value

theorem choices_congr {bestOnly : Bool} {parameters : List Parameter}
    (named : ∀ parameter ∈ parameters, parameter.name ∈ names)
    (same : (leading bestOnly trials).map (Trial.evidence names) =
      (leading bestOnly others).map (Trial.evidence names))
    (fixed : ParameterSet) (weight : Float) :
    choices trials fixed parameters weight bestOnly =
      choices others fixed parameters weight bestOnly := by
  refine congrArg NameMap.ofList (List.filterMap_congr fun parameter member => ?_)
  rw [choice?_congr (named parameter (List.mem_filter.mp member).1) same]

end Evidence
end Recommendation

/-- All that an advice rests on besides the description of the columns. -/
structure Grounds where
  /-- What the trials that are looked at say, best first. -/
  leading : List Evidence
  fixed : ParameterSet

def Dataset.grounds (dataset : Dataset) (preferences : Preferences) : Grounds :=
  let ranking := Ranking.ofDataset dataset preferences.method preferences.persons
  ⟨(Recommendation.leading preferences.bestOnly ranking.trials).map
    (Trial.evidence dataset.parameterNames), ranking.fixed⟩

namespace Advice

variable {dataset other : Dataset} {preferences : Preferences}

theorem topScore?_made :
    (made dataset preferences).topScore? =
      (dataset.grounds preferences).leading.head?.map Evidence.objective := by
  simp only [Dataset.grounds, List.head?_map, Recommendation.head?_leading, Option.map_map]
  rfl

theorem suggestions_made :
    (made dataset preferences).suggestions = linesFor dataset.parameters
      (made dataset preferences).ranking.fixed (made dataset preferences).recommendation :=
  rfl

/-- Datasets with the same columns that give the same grounds get the same recommendation. -/
theorem recommendation_made_congr (described : other.parameters = dataset.parameters)
    (same : other.grounds preferences = dataset.grounds preferences) :
    (made other preferences).recommendation = (made dataset preferences).recommendation := by
  have names : other.parameterNames = dataset.parameterNames :=
    congrArg (List.map Parameter.name) described
  have fixed : (made other preferences).ranking.fixed = (made dataset preferences).ranking.fixed :=
    congrArg Grounds.fixed same
  have leading := congrArg Grounds.leading same
  simp only [Dataset.grounds, names] at leading
  simp only [made] at fixed ⊢
  rw [described, fixed]
  exact Recommendation.choices_congr (fun _ => List.mem_map_of_mem) leading ..

/-- Nor do they differ in the response. -/
theorem response_made_congr (described : other.parameters = dataset.parameters)
    (same : other.grounds preferences = dataset.grounds preferences) :
    (made other preferences).response = (made dataset preferences).response := by
  have fixed : (made other preferences).ranking.fixed = (made dataset preferences).ranking.fixed :=
    congrArg Grounds.fixed same
  have chosen := recommendation_made_congr described same
  have score : (made other preferences).topScore? = (made dataset preferences).topScore? := by
    rw [topScore?_made, topScore?_made, same]
  have lines : (made other preferences).suggestions = (made dataset preferences).suggestions := by
    rw [suggestions_made, suggestions_made, described, fixed, chosen]
  rw [response, response, score, lines]

end Advice
end Cupping
