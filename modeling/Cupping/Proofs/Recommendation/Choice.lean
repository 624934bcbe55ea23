import Cupping.Recommendation
import Cupping.Proofs.Dataset.Description
import Cupping.Proofs.Dataset.Lookup

/-!
Which parameters get a recommendation. The best trial is always among the elite, so a vote is never
empty and a blend fails only where the best trial itself has no number.
-/

namespace Cupping.Recommendation

theorem eliteCount_pos {count : Nat} (ranked : 0 < count) : 0 < eliteCount count := by
  unfold eliteCount
  omega

/-- The best of some trials. -/
def elite (trials : List Trial) : List Trial :=
  trials.take (eliteCount trials.length)

theorem best_mem_elite (best : Trial) (rest : List Trial) : best ∈ elite (best :: rest) := by
  have positive : 0 < eliteCount (best :: rest).length := eliteCount_pos (Nat.succ_pos _)
  obtain ⟨others, counted⟩ := Nat.exists_eq_add_of_lt positive
  rw [elite, counted]
  simp

theorem countVote_ne_nil (value : Cell) (candidates : List Candidate) :
    countVote value candidates ≠ [] := by
  cases candidates with
  | nil => simp [countVote]
  | cons candidate rest =>
    unfold countVote
    split <;> simp

theorem tally_ne_nil {values : List Cell} (voted : values ≠ []) : tally values ≠ [] := by
  obtain ⟨others, last, rfl⟩ := (List.eq_nil_or_concat values).resolve_left voted
  simpa [tally, List.foldl_append] using countVote_ne_nil _ _

theorem winner?_isSome {candidates : List Candidate} (voted : candidates ≠ []) :
    (winner? candidates).isSome = true := by
  cases candidates with
  | nil => exact absurd rfl voted
  | cons first rest => rfl

variable {trials : List Trial} {best : Trial} {name : String}

/-- A single vote is enough for a result. -/
theorem pluralityVote?_isSome (member : best ∈ trials) (voted : best.row.isPresent name = true) :
    (pluralityVote? trials name).isSome = true := by
  obtain ⟨value, given⟩ := Option.isSome_iff_exists.mp voted
  have counted : value ∈ trials.filterMap (·.row.get? name) :=
    List.mem_filterMap.mpr ⟨best, member, given⟩
  rw [pluralityVote?, Option.isSome_map]
  exact winner?_isSome (tally_ne_nil (List.ne_nil_of_mem counted))

/-- A blend fails only for want of the best trial's number. -/
theorem blend?_isSome (member : best ∈ trials) (kind : ParameterKind) (range : NumericRange)
    (weight : Float) :
    (blend? trials best name kind range weight).isSome = (best.row.number? name).isSome := by
  unfold blend?
  cases given : best.row.number? name with
  | none => simp
  | some value =>
    have counted : value ∈ trials.filterMap (·.row.number? name) :=
      List.mem_filterMap.mpr ⟨best, member, given⟩
    simp [List.isEmpty_eq_false_iff.mpr (List.ne_nil_of_mem counted)]

theorem suggest?_isSome {parameter : Parameter} (ranged : parameter.IsRanged)
    (member : best ∈ trials) (present : best.row.isPresent parameter.name = true)
    (weight : Float) :
    (suggest? trials best weight parameter).isSome = true ↔
      ¬ (parameter.kind.isNumeric = true ∧ best.row.number? parameter.name = none) := by
  obtain ⟨name, kind, unit, range⟩ := parameter
  cases kind with
  | category =>
    have voted := pluralityVote?_isSome member present
    simpa [suggest?, ParameterKind.isNumeric] using voted
  | integer =>
    obtain ⟨range, rfl⟩ := Option.isSome_iff_exists.mp (ranged rfl)
    simp [suggest?, blend?_isSome member, ParameterKind.isNumeric, Option.isSome_iff_ne_none]
  | real =>
    obtain ⟨range, rfl⟩ := Option.isSome_iff_exists.mp (ranged rfl)
    simp [suggest?, blend?_isSome member, ParameterKind.isNumeric, Option.isSome_iff_ne_none]

/-- What ranked trials say about a parameter that may change. -/
def choice? (trials : List Trial) (weight : Float) (bestOnly : Bool) (parameter : Parameter) :
    Option Cell :=
  match trials with
  | [] => none
  | best :: _ =>
    if bestOnly then best.row.get? parameter.name
    else suggest? (elite trials) best weight parameter

/-- The parameters that are not held fixed. -/
def searched (fixed : ParameterSet) (parameters : List Parameter) : List Parameter :=
  parameters.filter fun parameter => !fixed.contains parameter.name

/-- The choices for the parameters that are not held fixed. -/
def choices (trials : List Trial) (fixed : ParameterSet) (parameters : List Parameter)
    (weight : Float) (bestOnly : Bool) : ParameterSet :=
  NameMap.ofList ((searched fixed parameters).filterMap fun parameter =>
    (choice? trials weight bestOnly parameter).map (parameter.name, ·))

/-- With a possible weight there is always a recommendation. -/
theorem recommend_eq {weight : Float} (possible : isWeight weight = true) (trials : List Trial)
    (fixed : ParameterSet) (parameters : List Parameter) (bestOnly : Bool) :
    recommend trials fixed parameters weight bestOnly =
      .ok (choices trials fixed parameters weight bestOnly) := by
  cases trials with
  | nil =>
    have nothing : (searched fixed parameters).filterMap (fun parameter =>
        (choice? [] weight bestOnly parameter).map (parameter.name, ·)) = [] :=
      List.filterMap_eq_nil_iff.mpr fun _ _ => rfl
    rw [choices, nothing]
    simp [recommend, possible, NameMap.ofList]
  | cons best rest =>
    cases bestOnly with
    | false => simp [recommend, possible, choices, choice?, searched, elite]
    | true =>
      simp [recommend, possible, choices, choice?, searched, Row.project, List.filterMap_map]

variable {fixed : ParameterSet} {parameters : List Parameter}

/-- What is held fixed is not recommended. -/
theorem get?_choices_of_fixed (held : fixed.contains name = true) (trials : List Trial)
    (weight : Float) (bestOnly : Bool) :
    (choices trials fixed parameters weight bestOnly).get? name = none := by
  refine NameMap.get?_ofList_filterMap_of_notMem fun parameter member same => ?_
  have free := (List.mem_filter.mp member).2
  simp [same, held] at free

/-- What is not held fixed is recommended as the trials say. -/
theorem get?_choices (distinct : (parameters.map Parameter.name).Nodup) {parameter : Parameter}
    (member : parameter ∈ parameters) (free : fixed.contains parameter.name = false)
    (trials : List Trial) (weight : Float) (bestOnly : Bool) :
    (choices trials fixed parameters weight bestOnly).get? parameter.name =
      choice? trials weight bestOnly parameter := by
  refine NameMap.get?_ofList_filterMap (List.mem_filter.mpr ⟨member, by simp [free]⟩) ?_
  intro other listed same
  rw [List.inj_on_of_nodup_map distinct (List.mem_filter.mp listed).1 member same]

end Cupping.Recommendation
