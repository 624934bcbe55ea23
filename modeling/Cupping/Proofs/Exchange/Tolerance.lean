import Cupping.EventStream.Events
import Cupping.Exchange.Advice
import Cupping.Exchange.Request
import Cupping.Proofs.Exchange.Fields
import Cupping.Proofs.Json.Alike

/-!
What is received as JSON text is decoded alike when it changes where nobody reads: when members come
in another order, when there are more of them than is known, and when what there is not is null. The
same holds for the records inside of a record.
-/

namespace Cupping

open Json

def RunTrial.fields : List Field :=
  [.plain "id", .plain "trial_number", .plain "parameters", .nullable "score", .plain "state"]

def Run.fields : List Field :=
  [.plain "id", .plain "status", .nullable "best_score", .nullable "best_params",
    .plain "trial_count", .plain "n_trials", .plain "method", .plain "selected_persons",
    .nullable "created_at", ⟨"latest_trial", true, Alike RunTrial.fields⟩]

def RunEvent.fields : List Field :=
  [.plain "trial_number", .plain "run_status", .nullable "best_score", .nullable "best_parameters",
    .nullable "last_trial_parameters", .nullable "last_trial_score"]

def StartRequest.fields : List Field :=
  [.plain "method", .plain "n_trials", .plain "selected_persons"]

def ScoreRequest.fields : List Field :=
  [.plain "trial_id", .plain "score"]

def AdviceRequest.fields : List Field :=
  [.plain "dataset_prefix", .plain "method", .plain "persons", .plain "best_only",
    .plain "prior_weight"]

def Suggestion.fields : List Field :=
  [.plain "name", .plain "value", .nullable "unit", .plain "fixed"]

def AdviceResponse.fields : List Field :=
  [.nullable "score", ⟨"suggested_parameters", false, AlikeItems (Alike Suggestion.fields)⟩]

def NumericRange.fields : List Field :=
  [.plain "low", .plain "high", .plain "step"]

def Parameter.fields : List Field :=
  [.plain "name", .plain "kind", .nullable "unit",
    ⟨"range", true, Alike NumericRange.fields⟩]

section Reading

variable {value edited : Value}

theorem RunTrial.ofJson?_of_alike (alike : Alike fields value edited) :
    ofJson? value = ofJson? edited := by
  refine Record.ofValue?_bind_of_alike (fun {record other} alike => ?_) (by decide) alike
  simp only [Record.Alike, fields, List.forall_mem_cons] at alike
  obtain ⟨id, number, parameters, score, state, -⟩ := alike
  rw [id.required (congrArg _), number.required (congrArg _), parameters.defaulted (congrArg _),
    score.optional (congrArg _), state.required (congrArg _)]

theorem Run.ofJson?_of_alike (alike : Alike fields value edited) :
    ofJson? value = ofJson? edited := by
  refine Record.ofValue?_bind_of_alike (fun {record other} alike => ?_) (by decide) alike
  simp only [Record.Alike, fields, List.forall_mem_cons] at alike
  obtain ⟨id, status, bestScore, bestParameters, trialCount, trialLimit, method, persons, createdAt,
    latestTrial, -⟩ := alike
  rw [id.required (congrArg _), status.required (congrArg _), bestScore.optional (congrArg _),
    bestParameters.optional (congrArg _), trialCount.required (congrArg _),
    trialLimit.required (congrArg _), method.defaulted (congrArg _), persons.defaulted (congrArg _),
    createdAt.optional (congrArg _),
    latestTrial.optional (orNull_of_alike RunTrial.ofJson?_of_alike)]

theorem RunEvent.ofJson?_of_alike (alike : Alike fields value edited) :
    ofJson? value = ofJson? edited := by
  refine Record.ofValue?_bind_of_alike (fun {record other} alike => ?_) (by decide) alike
  simp only [Record.Alike, fields, List.forall_mem_cons] at alike
  obtain ⟨number, status, bestScore, bestParameters, lastParameters, lastScore, -⟩ := alike
  rw [number.required (congrArg _), status.required (congrArg _), bestScore.optional (congrArg _),
    bestParameters.optional (congrArg _), lastParameters.optional (congrArg _),
    lastScore.optional (congrArg _)]

theorem StartRequest.ofJson?_of_alike (alike : Alike fields value edited) :
    ofJson? value = ofJson? edited := by
  refine Record.ofValue?_bind_of_alike (fun {record other} alike => ?_) (by decide) alike
  simp only [Record.Alike, fields, List.forall_mem_cons] at alike
  obtain ⟨method, trials, persons, -⟩ := alike
  rw [method.required (congrArg _), trials.required (congrArg _), persons.defaulted (congrArg _)]

theorem ScoreRequest.ofJson?_of_alike (alike : Alike fields value edited) :
    ofJson? value = ofJson? edited := by
  refine Record.ofValue?_bind_of_alike (fun {record other} alike => ?_) (by decide) alike
  simp only [Record.Alike, fields, List.forall_mem_cons] at alike
  obtain ⟨trialId, score, -⟩ := alike
  rw [trialId.required (congrArg _), score.required (congrArg _)]

theorem AdviceRequest.ofJson?_of_alike (alike : Alike fields value edited) :
    ofJson? value = ofJson? edited := by
  refine Record.ofValue?_bind_of_alike (fun {record other} alike => ?_) (by decide) alike
  simp only [Record.Alike, fields, List.forall_mem_cons] at alike
  obtain ⟨stem, method, persons, bestOnly, weight, -⟩ := alike
  rw [stem.required (congrArg _), method.required (congrArg _), persons.defaulted (congrArg _),
    bestOnly.required (congrArg _), weight.required (congrArg _)]

theorem Suggestion.ofJson?_of_alike (alike : Alike fields value edited) :
    ofJson? value = ofJson? edited := by
  refine Record.ofValue?_bind_of_alike (fun {record other} alike => ?_) (by decide) alike
  simp only [Record.Alike, fields, List.forall_mem_cons] at alike
  obtain ⟨name, cell, unit, fixed, -⟩ := alike
  rw [name.required (congrArg _), cell.required (congrArg _), unit.optional (congrArg _),
    fixed.defaulted (congrArg _)]

theorem AdviceResponse.ofJson?_of_alike (alike : Alike fields value edited) :
    ofJson? value = ofJson? edited := by
  refine Record.ofValue?_bind_of_alike (fun {record other} alike => ?_) (by decide) alike
  simp only [Record.Alike, fields, List.forall_mem_cons] at alike
  obtain ⟨score, suggestions, -⟩ := alike
  have item (value other : Value) (alike : Alike Suggestion.fields value other) :
      Suggestion.ofJson? value = Suggestion.ofJson? other := Suggestion.ofJson?_of_alike alike
  rw [score.optional (congrArg _), suggestions.defaulted (listOf?_of_alike item)]

theorem NumericRange.ofJson?_of_alike (alike : Alike fields value edited) :
    ofJson? value = ofJson? edited := by
  refine Record.ofValue?_bind_of_alike (fun {record other} alike => ?_) (by decide) alike
  simp only [Record.Alike, fields, List.forall_mem_cons] at alike
  obtain ⟨low, high, step, -⟩ := alike
  rw [low.required (congrArg _), high.required (congrArg _), step.required (congrArg _)]

theorem Parameter.ofJson?_of_alike (alike : Alike fields value edited) :
    ofJson? value = ofJson? edited := by
  refine Record.ofValue?_bind_of_alike (fun {record other} alike => ?_) (by decide) alike
  simp only [Record.Alike, fields, List.forall_mem_cons] at alike
  obtain ⟨name, kind, unit, range, -⟩ := alike
  rw [name.required (congrArg _), kind.required (congrArg _), unit.nullable (congrArg _),
    range.nullable (orNull_of_alike NumericRange.ofJson?_of_alike)]

end Reading

/-- Whether decoding takes no notice of changes to records with some fields: what is accepted is a
text of some data, and every text of alike data is accepted as the same. -/
def Tolerates {α : Type} (decode : String → Option α) (fields : List Field) : Prop :=
  ∀ {text : String} {a : α}, decode text = some a →
    (∃ value, IsTextOf value text.toList) ∧
    ∀ {value edited : Value} {other : String}, IsTextOf value text.toList →
      Alike fields value edited → IsTextOf edited other.toList → decode other = some a

theorem tolerates_of_alike {α : Type} {read : Value → Option α} {fields : List Field}
    (same : ∀ {value edited : Value}, Alike fields value edited → read value = read edited) :
    Tolerates (decode? read) fields := by
  intro text a accepted
  obtain ⟨value, parsed, made⟩ := Option.bind_eq_some_iff.mp accepted
  refine ⟨⟨value, read?_eq_some_iff.mp parsed⟩, fun {given edited other} isText alike isOther => ?_⟩
  -- a text has only one value, so the given one is what has been decoded
  obtain rfl := Option.some.inj (parsed.symm.trans (read?_eq_some_iff.mpr isText))
  rw [decode?, read?_eq_some_iff.mpr isOther, Option.bind_some, ← same alike, made]

/-- Decoding takes no notice of the order of members, of members that are not known, and of null in
place of nothing, also in the records inside of a record. -/
theorem decode?_tolerates :
    Tolerates (decode? Run.ofJson?) Run.fields ∧
    Tolerates (decode? RunTrial.ofJson?) RunTrial.fields ∧
    Tolerates RunEvent.ofText? RunEvent.fields ∧
    Tolerates (decode? StartRequest.ofJson?) StartRequest.fields ∧
    Tolerates (decode? ScoreRequest.ofJson?) ScoreRequest.fields ∧
    Tolerates (decode? AdviceRequest.ofJson?) AdviceRequest.fields ∧
    Tolerates (decode? AdviceResponse.ofJson?) AdviceResponse.fields ∧
    Tolerates (decode? Parameter.ofJson?) Parameter.fields :=
  ⟨tolerates_of_alike Run.ofJson?_of_alike, tolerates_of_alike RunTrial.ofJson?_of_alike,
    tolerates_of_alike RunEvent.ofJson?_of_alike, tolerates_of_alike StartRequest.ofJson?_of_alike,
    tolerates_of_alike ScoreRequest.ofJson?_of_alike,
    tolerates_of_alike AdviceRequest.ofJson?_of_alike,
    tolerates_of_alike AdviceResponse.ofJson?_of_alike,
    tolerates_of_alike Parameter.ofJson?_of_alike⟩

/-- The members of a parameter behind its name and kind, with those in front. -/
def doseWith (members : List (Option String × Value)) : List (Option String × Value) :=
  ("name", .text "dose") :: ("kind", .text "real") :: members

def doseRange : List (Option String × Value) :=
  [("low", .number (.whole 14)), ("high", .number (.whole 20)), ("step", .number (.whole 1))]

/-- The same from behind, with a member that is not known. -/
def notedRange : List (Option String × Value) :=
  [("step", .number (.whole 1)), ("note", .list [.null]), ("high", .number (.whole 20)),
    ("low", .number (.whole 14))]

theorem alike_notedRange : Alike NumericRange.fields (.object doseRange) (.object notedRange) := by
  have turned : Edit NumericRange.fields doseRange doseRange.reverse :=
    .reorder doseRange.reverse_perm.symm
  have noted : Edit NumericRange.fields doseRange.reverse notedRange :=
    @Edit.ignored _ [("step", .number (.whole 1))] _ "note" (by decide) _
  exact .object (.trans _ _ _ (.rel _ _ turned) (.rel _ _ noted))

/-- A null is left out, the range is told otherwise, and all of it stands from behind. -/
theorem alike_dose :
    Alike Parameter.fields (.object (doseWith [("unit", .null), ("range", .object doseRange)]))
      (.object (doseWith [("range", .object notedRange)]).reverse) := by
  have within : Edit Parameter.fields (doseWith [("unit", .null), ("range", .object doseRange)])
      (doseWith [("unit", .null), ("range", .object notedRange)]) :=
    @Edit.within _ (doseWith [("unit", .null)]) [] ⟨"range", true, Alike NumericRange.fields⟩
      (by simp [Parameter.fields]) _ _ alike_notedRange
  have added : Edit Parameter.fields (doseWith [("range", .object notedRange)])
      (doseWith [("unit", .null), ("range", .object notedRange)]) :=
    @Edit.null _ (doseWith []) [("range", .object notedRange)] (.nullable "unit")
      (by simp [Parameter.fields]) rfl (by decide)
  have turned : Edit Parameter.fields (doseWith [("range", .object notedRange)])
      (doseWith [("range", .object notedRange)]).reverse :=
    .reorder (List.reverse_perm _).symm
  exact .object (.trans _ _ _ (.rel _ _ within) (.trans _ _ _ (.symm _ _ (.rel _ _ added))
    (.rel _ _ turned)))

theorem decode?_tolerates_dose :
    decode? Parameter.ofJson?
        ("\x7b\"name\":\"dose\",\"kind\":\"real\",\"unit\":null," ++
          "\"range\":\x7b\"low\":14,\"high\":20,\"step\":1\x7d\x7d") =
      some ⟨"dose", .real, none, some ⟨14, 20, 1⟩⟩ ∧
    decode? Parameter.ofJson?
        ("\x7b\"range\":\x7b\"step\":1,\"note\":[null],\"high\":20, \"low\":14\x7d,\n" ++
          "\"kind\":\"real\",\"name\":\"dose\"\x7d") =
      some ⟨"dose", .real, none, some ⟨14, 20, 1⟩⟩ := by
  have accepted : decode? Parameter.ofJson?
      ("\x7b\"name\":\"dose\",\"kind\":\"real\",\"unit\":null," ++
        "\"range\":\x7b\"low\":14,\"high\":20,\"step\":1\x7d\x7d") =
      some ⟨"dose", .real, none, some ⟨14, 20, 1⟩⟩ := by decide +kernel
  obtain ⟨-, -, -, -, -, -, -, tolerates⟩ := decode?_tolerates
  exact ⟨accepted,
    (tolerates accepted).2 (read?_eq_some_iff.mp rfl) alike_dose (read?_eq_some_iff.mp rfl)⟩

end Cupping
