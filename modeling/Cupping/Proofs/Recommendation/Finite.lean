import Cupping.Proofs.Exchange.RoundTrip
import Cupping.Proofs.Ranking.Objective
import Cupping.Proofs.Recommendation.Bounds
import Cupping.Proofs.Recommendation.Vote

/-!
The numbers of an answer are finite, and the answer can be told from its JSON text, as long as the
scores have a sum and the bounds and the number of steps between them are not too large. Everything
else in an answer is a cell of a row, and those are finite from the start.
-/

namespace Cupping

open Binary64

namespace NumericRange

variable {range : NumericRange} {e : ℤ}

/-- Whether the numbers of a range, and the number of steps between its bounds, are at most two to
some power. -/
structure IsModerate (range : NumericRange) (e : ℤ) : Prop where
  low : |value range.low| ≤ 2 ^ e
  high : |value range.high| ≤ 2 ^ e
  step : value range.step ≤ 2 ^ e
  span : value range.high - value range.low ≤ 2 ^ e * value range.step

/-- A whole number of steps is not much more than what was divided by them. -/
theorem steps_le {x y : Float} (finite : x.isFinite = true) (bounded : y.isFinite = true)
    (nonneg : 0 ≤ value x) (positive : 0 < value y) (few : value x ≤ 2 ^ e * value y)
    (least : -1074 ≤ e) (most : e < 1024) :
    (roundWhole (x / y)).isFinite = true ∧ 0 ≤ value (roundWhole (x / y)) ∧
      value (roundWhole (x / y)) * value y ≤ 2 * value x + value y := by
  have quotient : 0 ≤ value x / value y := div_nonneg nonneg positive.le
  have limited : |value x / value y| ≤ 2 ^ e := by
    rw [abs_of_nonneg quotient]
    exact (div_le_iff₀ positive).mpr few
  have exact := isExact_two_zpow least
  have small := two_zpow_lt_limit most
  have counted := rounds_div finite bounded positive.ne'
  have same := counted.value_eq_rounded exact small limited
  obtain ⟨held, whole⟩ := roundWhole_eq (counted.isFinite exact small limited)
  have near := abs_le.mp (abs_halfAway_sub_le (value (x / y)))
  have estimate := rounded_le_twice quotient
  have some : 0 ≤ value (x / y) := same ▸ rounded_nonneg quotient
  refine ⟨held, ?_, ?_⟩
  · rw [whole]
    exact_mod_cast halfAway_nonneg some
  · have count : value (roundWhole (x / y)) ≤ 2 * (value x / value y) + 1 := by
      rw [whole]
      linarith
    have scaled := mul_le_mul_of_nonneg_right count positive.le
    rwa [add_mul, mul_assoc, div_mul_cancel₀ _ positive.ne', one_mul] at scaled

/-- The distance of the bounds is rounded to at most the steps that it is. -/
theorem IsProper.distance_le (proper : range.IsProper) (moderate : range.IsModerate e)
    (nonneg : 0 ≤ e) (most : e < 1023) :
    IsWithin (2 ^ (e + 1)) (range.high - range.low) ∧ 0 ≤ value (range.high - range.low) ∧
      value (range.high - range.low) ≤ 2 ^ e * value range.step := by
  have wide : |value range.high - value range.low| ≤ 2 ^ (e + 1) := by
    rw [two_zpow_succ]
    linarith [abs_sub (value range.high) (value range.low), moderate.low, moderate.high]
  have exact := isExact_two_zpow (e := e + 1) (by omega)
  have small := two_zpow_lt_limit (e := e + 1) (by omega)
  have apart := rounds_sub proper.high proper.low
  have same := apart.value_eq_rounded exact small wide
  have limited := rounded_mono moderate.span
  rw [((isExact_value proper.step).two_zpow_mul nonneg).rounded, ← same] at limited
  refine ⟨apart.isWithin exact small wide, ?_, limited⟩
  rw [same]
  exact rounded_nonneg (sub_nonneg.mpr (value_le_of_le proper.ordered))

/-- The upper bound is not put far away from where it was. -/
theorem IsProper.snap_high_isWithin (proper : range.IsProper) (moderate : range.IsModerate e)
    (nonneg : 0 ≤ e) (most : e ≤ 1000) : IsWithin (2 ^ (e + 4)) (range.snap range.high) := by
  obtain ⟨apart, some, limited⟩ := proper.distance_le moderate nonneg (by omega)
  obtain ⟨finite, whole, count⟩ := steps_le apart.finite proper.step some proper.step_pos limited
    (by omega) (by omega)
  have eightfold : (2 : ℚ) ^ (e + 3) = 8 * 2 ^ e := by
    rw [zpow_add₀ (by norm_num)]
    ring
  have total : |value (roundWhole ((range.high - range.low) / range.step)) * value range.step| ≤
      2 ^ (e + 3) := by
    have size := (abs_le.mp apart.size).2
    rw [two_zpow_succ] at size
    rw [abs_of_nonneg (mul_nonneg whole proper.step_pos.le), eightfold]
    linarith [moderate.step, two_zpow_pos e]
  have scaled := (rounds_mul finite proper.step).isWithin (isExact_two_zpow (by omega))
    (two_zpow_lt_limit (by omega)) total
  have low : IsWithin (2 ^ (e + 3)) range.low :=
    ⟨proper.low, moderate.low.trans (zpow_le_zpow_right₀ (by norm_num) (by omega))⟩
  have double : (2 : ℚ) ^ (e + 3) + 2 ^ (e + 3) = 2 ^ (e + 4) := by
    rw [← two_mul, ← two_zpow_succ, add_assoc]
    norm_num
  rw [← double]
  refine scaled.add low ?_ ?_
  · rw [double]
    exact isExact_two_zpow (by omega)
  · rw [double]
    exact two_zpow_lt_limit (by omega)

end NumericRange

namespace Recommendation

/-- The last rounding keeps what is not too large finite. -/
theorem isFinite_roundFor {x : Float} {e : ℤ} (within : IsWithin (2 ^ e) x) (nonneg : 0 ≤ e)
    (most : e < 1017) (kind : ParameterKind) : (roundFor kind x).isFinite = true := by
  have scale : IsWithin (2 ^ (7 : ℤ)) 100.0 := by
    refine ⟨isFinite_hundred, ?_⟩
    rw [value_hundred]
    norm_num
  have joined : (2 : ℚ) ^ e * 2 ^ (7 : ℤ) = 2 ^ (e + 7) := (zpow_add₀ (by norm_num) e 7).symm
  have exact := isExact_two_zpow (e := e + 7) (by omega)
  have small := two_zpow_lt_limit (e := e + 7) (by omega)
  have real : (roundWhole (x * 100.0) / 100.0).isFinite = true := by
    have scaled := within.mul scale (joined ▸ exact) (joined ▸ small)
    rw [joined] at scaled
    have whole := scaled.roundWhole (by omega)
    exact (whole.div isFinite_hundred (by rw [value_hundred]; norm_num) exact small).finite
  cases kind with
  | integer => exact (roundWhole_eq within.finite).1
  | real => exact real
  | category => exact real

/-- Whatever a blend is, it comes to a finite number. -/
theorem isFinite_settle {range : NumericRange} (proper : range.IsProper)
    (moderate : range.IsModerate 1000) (kind : ParameterKind) (blend : Float) :
    (settle kind range blend).isFinite = true := by
  obtain ⟨lower, upper⟩ := settle_mem kind proper blend
  obtain ⟨finite, same⟩ := proper.snap_low
  have low : IsWithin (2 ^ (1000 : ℤ)) (range.snap range.low) := ⟨finite, same ▸ moderate.low⟩
  have high := proper.snap_high_isWithin moderate (by norm_num) le_rfl
  exact isFinite_of_mem lower upper (isFinite_roundFor low (by norm_num) (by norm_num) kind)
    (isFinite_roundFor high (by norm_num) (by norm_num) kind)

/-- What can be said about a parameter: a blend that was settled, or a value of some trial. -/
def IsSaid (trials : List Trial) (parameter : Parameter) (cell : Cell) : Prop :=
  (∃ range blend, parameter.kind.isNumeric = true ∧ parameter.range = some range ∧
    cell = .number (settle parameter.kind range blend)) ∨
    ∃ trial ∈ trials, trial.row.get? parameter.name = some cell

theorem isSaid_of_suggest? {elite : List Trial} {best : Trial} {weight : Float}
    {parameter : Parameter} {cell : Cell}
    (suggested : suggest? elite best weight parameter = some cell) :
    IsSaid elite parameter cell := by
  obtain ⟨name, kind, unit, range⟩ := parameter
  cases kind with
  | category => exact .inr (mem_of_pluralityVote? suggested)
  | integer =>
    cases range with
    | none => cases suggested
    | some range =>
      obtain ⟨blend, same⟩ := suggest?_numeric rfl rfl suggested
      exact .inl ⟨range, blend, rfl, rfl, same⟩
  | real =>
    cases range with
    | none => cases suggested
    | some range =>
      obtain ⟨blend, same⟩ := suggest?_numeric rfl rfl suggested
      exact .inl ⟨range, blend, rfl, rfl, same⟩

theorem isSaid_of_choice? {trials : List Trial} {weight : Float} {bestOnly : Bool}
    {parameter : Parameter} {cell : Cell}
    (chosen : choice? trials weight bestOnly parameter = some cell) :
    IsSaid trials parameter cell := by
  unfold choice? at chosen
  split at chosen
  · cases chosen
  · rename_i best rest
    split at chosen
    · exact .inr ⟨best, .head _, chosen⟩
    · refine (isSaid_of_suggest? chosen).imp_right ?_
      rintro ⟨trial, member, given⟩
      exact ⟨trial, List.mem_of_mem_take member, given⟩

end Recommendation

namespace Dataset

variable {stem data metadata : String} {dataset : Dataset}

/-- Every number in the rows of a dataset is finite. -/
theorem isFinite_of_get? (accepted : ofTexts stem data metadata = .ok dataset) {row : Row}
    (member : row ∈ dataset.rows) {name : String} {cell : Cell}
    (given : row.get? name = some cell) : ∀ x ∈ cell.floats, x.isFinite = true := by
  obtain ⟨header, lines, -, rows⟩ := exists_isFilled accepted
  rw [rows] at member
  obtain ⟨line, -, rfl⟩ := List.mem_map.mp member
  rw [Table.get?_rowAfter] at given
  obtain ⟨text, -, rfl⟩ := Option.map_eq_some_iff.mp given
  intro x inside
  rw [Cell.ofShown_eq] at inside
  cases read : Cell.readNumber? text with
  | none =>
    rw [read] at inside
    cases inside
  | some value =>
    rw [read] at inside
    obtain rfl := List.mem_singleton.mp inside
    exact Cell.isFinite_of_readNumber? read

/-- Whether the numbers of a dataset leave room for all that is computed of them. -/
structure IsModerate (dataset : Dataset) (selected : List String) (power : ℕ) : Prop where
  scores : dataset.HasModerateScores selected power
  ranges : ∀ parameter ∈ dataset.parameters, ∀ range, parameter.range = some range →
    range.IsModerate 1000

end Dataset

namespace Advice

variable {stem data metadata : String} {dataset : Dataset} {preferences : Preferences} {power : ℕ}

/-- The score and all suggested numbers are finite. -/
theorem isFinite_made (accepted : Dataset.ofTexts stem data metadata = .ok dataset)
    (moderate : dataset.IsModerate preferences.persons power) :
    ∀ x ∈ (made dataset preferences).response.floats, x.isFinite = true := by
  have ranked : ∀ trial ∈ (made dataset preferences).ranking.trials, trial.row ∈ dataset.rows :=
    fun trial member => List.mem_of_getElem? (Ranking.mem_ofDataset.mp member).1
  rw [AdviceResponse.floats, List.forall_mem_append]
  constructor
  · intro x scored
    obtain ⟨best, first, rfl⟩ := Option.map_eq_some_iff.mp (Option.mem_toList.mp scored)
    have member := List.mem_of_head? first
    exact moderate.scores.isFinite (ranked best member) (Ranking.mem_ofDataset.mp member).2.2
  · intro x inside
    obtain ⟨line, listed, number⟩ := List.mem_flatMap.mp inside
    obtain ⟨parameter, member, shape⟩ := of_mem_linesFor listed
    have shown : (made dataset preferences).Shows parameter line.value line.fixed := by
      rw [Shows, ← shape]
      exact listed
    -- A fixed value stands in a row; any other one does so too, or it is a settled blend.
    cases fixed : line.fixed with
    | true =>
      rw [fixed, shows_fixed member] at shown
      obtain ⟨row, control, given⟩ := Option.bind_eq_some_iff.mp shown
      exact Dataset.isFinite_of_get? accepted (List.mem_of_find?_eq_some control) given x number
    | false =>
      rw [fixed, shows_free (Dataset.nodup_of_accepted accepted) member] at shown
      rcases Recommendation.isSaid_of_choice? shown.2 with
        ⟨range, blend, isNumeric, ranged, settled⟩ | ⟨trial, found, given⟩
      · obtain ⟨_, same, proper⟩ :=
          (Dataset.isProper_of_accepted accepted parameter member).numeric isNumeric
        obtain rfl := Option.some.inj (ranged.symm.trans same)
        rw [Suggestion.floats, settled] at number
        obtain rfl := List.mem_singleton.mp number
        exact Recommendation.isFinite_settle proper (moderate.ranges _ member _ ranged) ..
      · exact Dataset.isFinite_of_get? accepted (ranked trial found) given x number

/-- An answer that is computed from moderate numbers has only finite numbers, and comes back from
its JSON text. -/
theorem ofDataset_response_finite (accepted : Dataset.ofTexts stem data metadata = .ok dataset)
    (possible : Recommendation.isWeight preferences.weight = true)
    (known : ∀ person ∈ preferences.persons, person ∈ dataset.persons)
    (moderate : dataset.IsModerate preferences.persons power) :
    ∃ advice, ofDataset dataset preferences = .ok advice ∧
      (∀ x ∈ advice.response.floats, x.isFinite = true) ∧
      ((∀ x ∈ advice.response.floats, x.isFinite = true → Json.ReadsBack x) →
        Json.decode? AdviceResponse.ofJson? advice.response.toJson.write =
          some advice.response) := by
  have finite : ∀ x ∈ (made dataset preferences).response.floats, x.isFinite = true :=
    isFinite_made accepted moderate
  refine ⟨made dataset preferences,
    ofDataset_eq (Preferences.fault?_eq_none_iff.mpr ⟨possible, known⟩), finite, fun back => ?_⟩
  refine Json.decode?_write (AdviceResponse.isPlain_toJson fun x inside => ?_)
    (AdviceResponse.ofJson?_toJson _)
  exact back x inside (finite x inside)

/-- Scores whose sum is no larger than it may be. -/
theorem ofDataset_response_finite_of_mean :
    let data := "grind,filter,nick,tom\n12,paper,7,8\n"
    let metadata := "type,name,unit,low,high,step,parameter type\n" ++
      "parameter,grind,clicks,10,30,2,int\nparameter,filter,,,,,category\n" ++
      "score,nick\nscore,tom\n"
    let range : NumericRange := ⟨10, 30, 2⟩
    let dataset : Dataset := ⟨"v60.", [.ofList [("grind", .number 12), ("filter", .text "paper"),
      ("nick", .number 7), ("tom", .number 8)]],
      [⟨"grind", .integer, some "clicks", some range⟩, .category "filter"], ["nick", "tom"]⟩
    let preferences : Preferences := ⟨.mean, [], 0.5, false⟩
    let response : AdviceResponse := ⟨some 7.5, [⟨"grind", .number 12, some "clicks", false⟩,
      ⟨"filter", .text "paper", none, false⟩]⟩
    Dataset.ofTexts "v60." data metadata = .ok dataset ∧ dataset.IsModerate [] 1 ∧
      (ofDataset dataset preferences).map Advice.response = .ok response ∧
      Json.decode? AdviceResponse.ofJson? response.toJson.write = some response := by
  intro data metadata range dataset preferences response
  have accepted : Dataset.ofTexts "v60." data metadata = .ok dataset := by decide +kernel
  have possible : Recommendation.isWeight preferences.weight = true := by decide +kernel
  have known : ∀ person ∈ preferences.persons, person ∈ dataset.persons := nofun
  have scores : dataset.HasModerateScores [] 1 := by
    refine ⟨by decide, by decide, fun row member person counted x given => ?_⟩
    obtain rfl := List.mem_singleton.mp member
    have each : ∀ n : ℕ, n < 2 ^ 53 → x = .ofNat n → |value x| ≤ 2 ^ (1022 - (1 : ℕ) : ℤ) := by
      rintro n small rfl
      exact (isWithin_ofNat small (by norm_num)).size
    rcases List.mem_pair.mp counted with rfl | rfl
    · exact each 7 (by norm_num) (Option.some.inj (given.symm.trans (by decide +kernel)))
    · exact each 8 (by norm_num) (Option.some.inj (given.symm.trans (by decide +kernel)))
  have grind : range.IsModerate 1000 := by
    have low : value range.low = 10 := (exact_ofNat (n := 10) (by norm_num)).2
    have high : value range.high = 30 := (exact_ofNat (n := 30) (by norm_num)).2
    have step : value range.step = 2 := (exact_ofNat (n := 2) (by norm_num)).2
    have power : (10 : ℚ) ≤ 2 ^ (4 : ℤ) := by norm_num
    have ten : (10 : ℚ) ≤ 2 ^ (1000 : ℤ) :=
      power.trans (zpow_le_zpow_right₀ (by norm_num) (by norm_num))
    constructor
    · exact (isWithin_ofNat (n := 10) (by norm_num) (by norm_num)).size
    · exact (isWithin_ofNat (n := 30) (by norm_num) (by norm_num)).size
    · exact (le_abs_self _).trans (isWithin_ofNat (n := 2) (by norm_num) (by norm_num)).size
    · calc value range.high - value range.low = 10 * value range.step := by
            rw [low, high, step]
            norm_num
        _ ≤ 2 ^ (1000 : ℤ) * value range.step :=
            mul_le_mul_of_nonneg_right ten (by rw [step]; norm_num)
  have moderate : dataset.IsModerate [] 1 := by
    refine ⟨scores, fun parameter member given ranged => ?_⟩
    rcases List.mem_pair.mp member with rfl | rfl
    · exact Option.some.inj ranged ▸ grind
    · cases ranged
  have computed : (ofDataset dataset preferences).map Advice.response = .ok response := by
    decide +kernel
  obtain ⟨advice, made, finite, back⟩ := ofDataset_response_finite accepted possible known moderate
  refine ⟨accepted, moderate, computed, ?_⟩
  rw [made] at computed
  have same : advice.response = response := Except.ok.inj computed
  rw [same] at back
  exact back (by decide +kernel)

/-- Two scores whose sum is too large for a double: their mean is infinite, and the JSON text of the
answer does not have it. -/
theorem loses_infinite_score :
    let data := "temp,nick,tom\n90,1e308,1e308\n"
    let metadata := "type,name,low,high,step,parameter type\n" ++
      "parameter,temp,80,100,1,real\nscore,nick\nscore,tom\n"
    let dataset : Dataset := ⟨"v60.", [.ofList [("temp", .number 90), ("nick", .number 1e308),
      ("tom", .number 1e308)]], [⟨"temp", .real, none, some ⟨80, 100, 1⟩⟩], ["nick", "tom"]⟩
    let preferences : Preferences := ⟨.mean, ["nick", "tom"], 0.5, false⟩
    let infinity : Float := 1e308 + 1e308
    let lines : List Suggestion := [⟨"temp", .number 90, none, false⟩]
    let response : AdviceResponse := ⟨some infinity, lines⟩
    Dataset.ofTexts "v60." data metadata = .ok dataset ∧
      Recommendation.isWeight preferences.weight = true ∧
      (∀ person ∈ preferences.persons, person ∈ dataset.persons) ∧
      (ofDataset dataset preferences).map Advice.response = .ok response ∧
      infinity.isFinite = false ∧
      Json.decode? AdviceResponse.ofJson? response.toJson.write = some ⟨none, lines⟩ := by
  exact ⟨by decide +kernel, by decide +kernel, by decide, by decide +kernel, by decide +kernel,
    by decide +kernel⟩

end Advice
end Cupping
