import Cupping.Advice
import Cupping.Proofs.Ranking.Order
import Cupping.Proofs.Recommendation.Choice

/-!
Which lines an advice has: every parameter that the dataset holds fixed, and of the others those
that the best trials have something to say about.
-/

namespace Cupping

namespace Preferences

theorem fault?_eq_none_iff {preferences : Preferences} {known : List String} :
    preferences.fault? known = none ↔
      Recommendation.isWeight preferences.weight = true ∧
        ∀ person ∈ preferences.persons, person ∈ known := by
  unfold fault?
  by_cases possible : Recommendation.isWeight preferences.weight = true
  · simp [possible]
  · simp [possible]

end Preferences

namespace Dataset

/-- The first row without a value for some parameter. -/
def control? (dataset : Dataset) : Option Row :=
  dataset.rows.find? fun row => decide (∃ name ∈ dataset.parameterNames, row.get? name = none)

/-- The value that the dataset holds a parameter at. -/
def held? (dataset : Dataset) (name : String) : Option Cell :=
  dataset.control?.bind (·.get? name)

/-- A dataset that has parameters leaves one of them free. -/
theorem exists_free {dataset : Dataset} (described : dataset.parameters ≠ []) :
    ∃ parameter ∈ dataset.parameters, dataset.held? parameter.name = none := by
  cases found : dataset.control? with
  | none =>
    obtain ⟨parameter, rest, whole⟩ := List.exists_cons_of_ne_nil described
    exact ⟨parameter, whole ▸ .head rest, by simp [held?, found]⟩
  | some row =>
    have lacking := List.find?_some found
    obtain ⟨name, member, missing⟩ := of_decide_eq_true lacking
    obtain ⟨parameter, listed, rfl⟩ := List.mem_map.mp member
    exact ⟨parameter, listed, by simp [held?, found, missing]⟩

end Dataset

namespace Ranking

theorem get?_fixed_ofDataset {dataset : Dataset} {parameter : Parameter}
    (member : parameter ∈ dataset.parameters) (method : ScoringMethod) (selected : List String) :
    (ofDataset dataset method selected).fixed.get? parameter.name =
      dataset.held? parameter.name := by
  have named : parameter.name ∈ dataset.parameterNames := List.mem_map_of_mem member
  have same : dataset.rows.find? (!isComplete dataset.parameterNames ·) = dataset.control? := by
    refine congrArg (dataset.rows.find? ·) (funext fun row => Bool.eq_iff_iff.mpr ?_)
    simp [isComplete, Row.isPresent]
  simp only [ofDataset, fixedParameters, same, Dataset.held?]
  cases dataset.control? with
  | none => rfl
  | some row => simp [Row.get?_project, named]

end Ranking

namespace Advice

section Rendering

variable {fixed recommendation : ParameterSet} {parameters : List Parameter}
  {parameter : Parameter} {name : String} {value : Cell}

/-- The value that a line shows, and whether it is held fixed. -/
def shown? (fixed recommendation : ParameterSet) (name : String) : Option (Cell × Bool) :=
  ((fixed.get? name).map (·, true)).or ((recommendation.get? name).map (·, false))

theorem suggest?_eq (fixed recommendation : ParameterSet) (parameter : Parameter) :
    suggest? fixed recommendation parameter =
      (shown? fixed recommendation parameter.name).map fun shown =>
        ⟨parameter.name, shown.1, parameter.unit, shown.2⟩ := by
  unfold suggest? shown?
  cases fixed.get? parameter.name with
  | none => cases recommendation.get? parameter.name <;> rfl
  | some value => rfl

theorem shown?_eq_some_true :
    shown? fixed recommendation name = some (value, true) ↔ fixed.get? name = some value := by
  unfold shown?
  cases fixed.get? name <;> simp

theorem shown?_eq_some_false :
    shown? fixed recommendation name = some (value, false) ↔
      fixed.get? name = none ∧ recommendation.get? name = some value := by
  unfold shown?
  cases fixed.get? name <;> simp

theorem shown?_isSome :
    (shown? fixed recommendation name).isSome = true ↔
      fixed.get? name = none → (recommendation.get? name).isSome = true := by
  unfold shown?
  cases fixed.get? name <;> simp

/-- The parameters with a line, in their own order. -/
theorem names_linesFor (fixed recommendation : ParameterSet) (parameters : List Parameter) :
    (linesFor parameters fixed recommendation).map Suggestion.name =
      (parameters.map Parameter.name).filter fun name =>
        (shown? fixed recommendation name).isSome := by
  induction parameters with
  | nil => rfl
  | cons parameter rest ih =>
    rw [linesFor] at ih ⊢
    rw [List.filterMap_cons, List.map_cons, List.filter_cons, suggest?_eq]
    cases shown? fixed recommendation parameter.name with
    | none => exact ih
    | some shown => exact congrArg (parameter.name :: ·) ih

theorem mem_linesFor {held : Bool} (member : parameter ∈ parameters) :
    ⟨parameter.name, value, parameter.unit, held⟩ ∈ linesFor parameters fixed recommendation ↔
      shown? fixed recommendation parameter.name = some (value, held) := by
  simp only [linesFor, List.mem_filterMap, suggest?_eq, Option.map_eq_some_iff]
  constructor
  · rintro ⟨other, -, shown, found, same⟩
    obtain ⟨named, rfl, -, rfl⟩ := Suggestion.mk.inj same
    exact named ▸ found
  · intro found
    exact ⟨parameter, member, _, found, rfl⟩

/-- A line is always for a parameter. -/
theorem of_mem_linesFor {line : Suggestion}
    (member : line ∈ linesFor parameters fixed recommendation) :
    ∃ parameter ∈ parameters, line = ⟨parameter.name, line.value, parameter.unit, line.fixed⟩ := by
  simp only [linesFor, List.mem_filterMap, suggest?_eq, Option.map_eq_some_iff] at member
  obtain ⟨parameter, listed, shown, -, rfl⟩ := member
  exact ⟨parameter, listed, rfl⟩

end Rendering

/-- The names in the lines of an advice. -/
def names (advice : Advice) : List String :=
  advice.suggestions.map Suggestion.name

/-- Whether an advice has a line that gives a parameter a value, held fixed or not. -/
def Shows (advice : Advice) (parameter : Parameter) (value : Cell) (fixed : Bool) : Prop :=
  ⟨parameter.name, value, parameter.unit, fixed⟩ ∈ advice.suggestions

/-- Whether the lines of an advice are the right ones for a dataset. -/
structure ListsRightly (dataset : Dataset) (bestOnly : Bool) (advice : Advice) : Prop where
  described : ∀ line ∈ advice.suggestions, ∃ parameter ∈ dataset.parameters,
    line = ⟨parameter.name, line.value, parameter.unit, line.fixed⟩
  ordered : advice.names.Sublist dataset.parameterNames
  once : advice.names.Nodup
  fixed : ∀ parameter ∈ dataset.parameters, ∀ value,
    advice.Shows parameter value true ↔ dataset.held? parameter.name = some value
  held : ∀ parameter ∈ dataset.parameters,
    advice.ranking.fixed.get? parameter.name = dataset.held? parameter.name
  unrecommended : ∀ name, advice.ranking.fixed.contains name = true →
    advice.recommendation.contains name = false
  recommended : ∀ parameter ∈ dataset.parameters, ∀ value, advice.Shows parameter value false →
    advice.recommendation.get? parameter.name = some value
  free : dataset.parameters ≠ [] →
    ∃ parameter ∈ dataset.parameters, dataset.held? parameter.name = none
  unranked : advice.ranking.trials = [] → ∀ line ∈ advice.suggestions, line.fixed = true
  /-- The values of the best trial alone leave no parameter out. -/
  best : ∀ best rest, advice.ranking.trials = best :: rest → bestOnly = true →
    advice.names = dataset.parameterNames ∧
      ∀ parameter ∈ dataset.parameters, dataset.held? parameter.name = none →
        ∃ value, best.row.get? parameter.name = some value ∧ advice.Shows parameter value false
  /-- A blend leaves out the numeric parameters that the best trial has no number for. -/
  blended : ∀ best rest, advice.ranking.trials = best :: rest → bestOnly = false →
    ∀ parameter ∈ dataset.parameters, parameter.name ∈ advice.names ↔
      ¬ (dataset.held? parameter.name = none ∧ parameter.kind.isNumeric = true ∧
        best.row.number? parameter.name = none)

section Made

variable (dataset : Dataset) (preferences : Preferences)

/-- The advice for preferences that suit a dataset. -/
def made : Advice :=
  let ranking := Ranking.ofDataset dataset preferences.method preferences.persons
  let recommendation := Recommendation.choices ranking.trials ranking.fixed dataset.parameters
    preferences.weight preferences.bestOnly
  ⟨ranking, recommendation, linesFor dataset.parameters ranking.fixed recommendation⟩

/-- What the trials of a dataset say about a parameter. -/
def said? (parameter : Parameter) : Option Cell :=
  Recommendation.choice? (made dataset preferences).ranking.trials preferences.weight
    preferences.bestOnly parameter

variable {dataset preferences}

theorem ofDataset_eq (suitable : preferences.fault? dataset.persons = none) :
    ofDataset dataset preferences = .ok (made dataset preferences) := by
  have possible := (Preferences.fault?_eq_none_iff.mp suitable).1
  simp only [ofDataset, suitable, Recommendation.recommend_eq possible, made]

theorem names_made : (made dataset preferences).names = dataset.parameterNames.filter fun name =>
    (shown? (made dataset preferences).ranking.fixed (made dataset preferences).recommendation
      name).isSome :=
  names_linesFor ..

variable {parameter : Parameter} {value : Cell}

theorem get?_fixed_made (member : parameter ∈ dataset.parameters) :
    (made dataset preferences).ranking.fixed.get? parameter.name =
      dataset.held? parameter.name :=
  Ranking.get?_fixed_ofDataset member ..

theorem get?_recommendation_made (distinct : dataset.parameterNames.Nodup)
    (member : parameter ∈ dataset.parameters) (free : dataset.held? parameter.name = none) :
    (made dataset preferences).recommendation.get? parameter.name =
      said? dataset preferences parameter := by
  refine Recommendation.get?_choices distinct member ?_ ..
  rw [NameMap.contains, Ranking.get?_fixed_ofDataset member, free]
  rfl

theorem shows_made {held : Bool} (member : parameter ∈ dataset.parameters) :
    (made dataset preferences).Shows parameter value held ↔
      shown? (made dataset preferences).ranking.fixed (made dataset preferences).recommendation
        parameter.name = some (value, held) :=
  mem_linesFor member

theorem shows_fixed (member : parameter ∈ dataset.parameters) :
    (made dataset preferences).Shows parameter value true ↔
      dataset.held? parameter.name = some value := by
  rw [shows_made member, shown?_eq_some_true, get?_fixed_made member]

theorem shows_free (distinct : dataset.parameterNames.Nodup)
    (member : parameter ∈ dataset.parameters) :
    (made dataset preferences).Shows parameter value false ↔
      dataset.held? parameter.name = none ∧
        said? dataset preferences parameter = some value := by
  rw [shows_made member, shown?_eq_some_false, get?_fixed_made member]
  refine and_congr_right fun free => ?_
  rw [get?_recommendation_made distinct member free]

theorem mem_names_made (distinct : dataset.parameterNames.Nodup)
    (member : parameter ∈ dataset.parameters) :
    parameter.name ∈ (made dataset preferences).names ↔
      (dataset.held? parameter.name = none →
        (said? dataset preferences parameter).isSome = true) := by
  have named : parameter.name ∈ dataset.parameterNames := List.mem_map_of_mem member
  rw [names_made, List.mem_filter, shown?_isSome, get?_fixed_made member]
  simp only [named, true_and]
  exact forall_congr' fun free => by rw [get?_recommendation_made distinct member free]

theorem names_made_eq
    (all : ∀ parameter ∈ dataset.parameters, parameter.name ∈ (made dataset preferences).names) :
    (made dataset preferences).names = dataset.parameterNames := by
  rw [names_made, List.filter_eq_self]
  intro name member
  obtain ⟨parameter, listed, rfl⟩ := List.mem_map.mp member
  have shown := all parameter listed
  rw [names_made] at shown
  exact (List.mem_filter.mp shown).2

theorem isPresent_of_ranked {trial : Trial}
    (ranked : trial ∈ (made dataset preferences).ranking.trials)
    (member : parameter ∈ dataset.parameters) : trial.row.isPresent parameter.name = true :=
  (Ranking.mem_ofDataset.mp ranked).2.1 _ (List.mem_map_of_mem member)

end Made

theorem listsRightly_made {dataset : Dataset} {metadata : List Row}
    (described : dataset.IsDescribedBy metadata) (preferences : Preferences) :
    (made dataset preferences).ListsRightly dataset preferences.bestOnly where
  described line member := of_mem_linesFor member
  ordered := by
    rw [names_made]
    exact List.filter_sublist
  once := by
    rw [names_made]
    exact described.distinct.filter _
  fixed parameter member value := shows_fixed member
  held parameter member := get?_fixed_made member
  unrecommended name fixed := by
    have absent : (made dataset preferences).recommendation.get? name = none :=
      Recommendation.get?_choices_of_fixed fixed ..
    rw [NameMap.contains, absent]
    rfl
  recommended parameter member value shown :=
    (shown?_eq_some_false.mp ((shows_made member).mp shown)).2
  free := Dataset.exists_free
  unranked := by
    intro unranked line member
    obtain ⟨parameter, listed, shape⟩ := of_mem_linesFor member
    by_contra recommended
    have shown : (made dataset preferences).Shows parameter line.value false := by
      rw [Shows, ← Bool.eq_false_iff.mpr recommended, ← shape]
      exact member
    obtain ⟨-, said⟩ := (shows_free described.distinct listed).mp shown
    rw [said?, unranked] at said
    cases said
  best := by
    intro best rest ranked verbatim
    have ofBest : best ∈ (made dataset preferences).ranking.trials := ranked ▸ .head rest
    have own : ∀ parameter ∈ dataset.parameters, ∃ value,
        best.row.get? parameter.name = some value ∧
          said? dataset preferences parameter = some value := by
      intro parameter member
      have present := isPresent_of_ranked ofBest member
      obtain ⟨value, given⟩ := Option.isSome_iff_exists.mp present
      refine ⟨value, given, ?_⟩
      simpa [said?, ranked, Recommendation.choice?, verbatim] using given
    constructor
    · refine names_made_eq fun parameter member => ?_
      obtain ⟨value, -, said⟩ := own parameter member
      exact (mem_names_made described.distinct member).mpr fun _ => by simp [said]
    · intro parameter member free
      obtain ⟨value, given, said⟩ := own parameter member
      exact ⟨value, given, (shows_free described.distinct member).mpr ⟨free, said⟩⟩
  blended := by
    intro best rest ranked blending parameter member
    have ofBest : best ∈ (made dataset preferences).ranking.trials := ranked ▸ .head rest
    have present := isPresent_of_ranked ofBest member
    have said : said? dataset preferences parameter =
        Recommendation.suggest? (Recommendation.elite (best :: rest)) best preferences.weight
          parameter := by
      simp [said?, ranked, Recommendation.choice?, blending]
    rw [mem_names_made described.distinct member, said,
      Recommendation.suggest?_isSome (described.ranged parameter member)
        (Recommendation.best_mem_elite best rest) present]
    exact not_and.symm

/-- Preferences that suit an accepted dataset get an advice with exactly the right lines, in the
order in which the metadata describes the parameters. -/
theorem ofDataset_listsRightly {stem data metadata : String} {dataset : Dataset}
    {preferences : Preferences} (accepted : Dataset.ofTexts stem data metadata = .ok dataset)
    (possible : Recommendation.isWeight preferences.weight = true)
    (known : ∀ person ∈ preferences.persons, person ∈ dataset.persons) :
    ∃ described advice, Table.read metadata = .ok described ∧
      dataset.parameterNames = described.filterMap Column.parameterName? ∧
      ofDataset dataset preferences = .ok advice ∧
      advice.ranking = Ranking.ofDataset dataset preferences.method preferences.persons ∧
      advice.ListsRightly dataset preferences.bestOnly := by
  obtain ⟨described, readable, meant⟩ := Dataset.isDescribedBy_of_accepted accepted
  have suitable : preferences.fault? dataset.persons = none :=
    Preferences.fault?_eq_none_iff.mpr ⟨possible, known⟩
  exact ⟨described, made dataset preferences, readable, meant.names, ofDataset_eq suitable, rfl,
    listsRightly_made meant preferences⟩

/-- A dataset that holds the filter fixed and leaves the grind to a blend: both are listed, the
filter as it is held. -/
theorem listsRightly_filter_held :
    let data := "filter,grind,nick\npaper,,\npaper,18,7\nmetal,20,9\n"
    let metadata := "type,name,low,high,parameter type\n" ++ "parameter,filter,,,category\n" ++
      "parameter,grind,10,30,int\n" ++ "score,nick,,,\n"
    let fine : Row := .ofList
      [("filter", .text "paper"), ("grind", .number 18), ("nick", .number 7)]
    let best : Row := .ofList
      [("filter", .text "metal"), ("grind", .number 20), ("nick", .number 9)]
    let dataset : Dataset := ⟨"v60.", [.ofList [("filter", .text "paper")], fine, best],
      [.category "filter", ⟨"grind", .integer, none, some ⟨10, 30, 1⟩⟩], ["nick"]⟩
    let preferences : Preferences := ⟨.mean, ["nick"], 0.5, false⟩
    Dataset.ofTexts "v60." data metadata = .ok dataset ∧
      ∃ advice, ofDataset dataset preferences = .ok advice ∧
        advice.suggestions =
          [⟨"filter", .text "paper", none, true⟩, ⟨"grind", .number 20, none, false⟩] ∧
        advice.ListsRightly dataset false := by
  intro data metadata fine best dataset preferences
  have accepted : Dataset.ofTexts "v60." data metadata = .ok dataset := by decide +kernel
  have possible : Recommendation.isWeight preferences.weight = true := by decide +kernel
  have known : ∀ person ∈ preferences.persons, person ∈ dataset.persons := by decide
  have ranked : (Ranking.ofDataset dataset .mean ["nick"]).trials =
      [⟨2, 9, best⟩, ⟨1, 7, fine⟩] := by
    have scored : dataset.rows.zipIdx.filterMap (Ranking.trialOf? .mean dataset.parameterNames
        ["nick"]) = [⟨1, 7, fine⟩, ⟨2, 9, best⟩] := by decide +kernel
    have worse : Ranking.isBefore ⟨1, 7, fine⟩ ⟨2, 9, best⟩ = false := by decide +kernel
    refine (congrArg (List.mergeSort · Ranking.isBefore) scored).trans ?_
    simp [List.mergeSort, worse]
  have listed : (Advice.made dataset preferences).suggestions =
      [⟨"filter", .text "paper", none, true⟩, ⟨"grind", .number 20, none, false⟩] := by
    change linesFor _ _ (Recommendation.choices (Ranking.ofDataset dataset .mean ["nick"]).trials
      _ _ _ _) = _
    rw [ranked]
    decide +kernel
  obtain ⟨_, advice, -, -, given, -, right⟩ := ofDataset_listsRightly accepted possible known
  have suitable : preferences.fault? dataset.persons = none :=
    Preferences.fault?_eq_none_iff.mpr ⟨possible, known⟩
  obtain rfl : Advice.made dataset preferences = advice :=
    Except.ok.inj ((ofDataset_eq suitable).symm.trans given)
  exact ⟨accepted, _, given, listed, right⟩

end Advice
end Cupping
