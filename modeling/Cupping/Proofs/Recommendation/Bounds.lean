import Cupping.Proofs.Recommendation.Lines
import Cupping.Proofs.Recommendation.Snapping

/-!
Suggestions within their bounds. A blend that is clamped and snapped comes to something between what
the bounds themselves come to. Where they are on their own grid, and are numbers that the last
rounding leaves alone, that is the bounds.
-/

namespace Cupping

open Binary64

namespace NumericRange

variable {range : NumericRange} {count : ℕ}

/-- Whether the bounds are a whole number of steps apart. -/
def IsGrid (range : NumericRange) (count : ℕ) : Prop :=
  value range.high = value range.low + count * value range.step

/-- The lower bound is on the grid. -/
theorem IsProper.snap_low (proper : range.IsProper) :
    (range.snap range.low).isFinite = true ∧ value (range.snap range.low) = value range.low := by
  have nothing : |(0 : ℚ)| < limit := abs_zero.trans_lt limit_pos
  have apart := rounds_sub proper.low proper.low
  rw [sub_self] at apart
  obtain ⟨finite, zero⟩ := apart.exact isExact_zero nothing
  have counted := rounds_div finite proper.step proper.step_pos.ne'
  rw [zero, zero_div] at counted
  obtain ⟨finite, zero⟩ := counted.exact isExact_zero nothing
  obtain ⟨finite, whole⟩ := roundWhole_eq finite
  rw [zero, show (0 : ℚ) = (0 : ℤ) from rfl, halfAway_intCast] at whole
  have scaled := rounds_mul finite proper.step
  rw [whole, Int.cast_zero, zero_mul] at scaled
  obtain ⟨finite, zero⟩ := scaled.exact isExact_zero nothing
  have shifted := rounds_add finite proper.low
  rw [zero, zero_add] at shifted
  exact shifted.exact (isExact_value proper.low) (isFinite_iff.mp proper.low).2

/-- Whether the bounds and the number of steps between them are not too large. -/
structure IsModest (range : NumericRange) (count : ℕ) : Prop where
  low : |value range.low| ≤ 2 ^ 40
  high : |value range.high| ≤ 2 ^ 40
  few : count ≤ 2 ^ 49

theorem IsModest.span_le (modest : range.IsModest count) (grid : range.IsGrid count) :
    |count * value range.step| ≤ 2 ^ (41 : ℤ) := by
  obtain ⟨low, high, -⟩ := modest
  have span : count * value range.step = value range.high - value range.low := by
    rw [grid]
    ring
  have triangle := abs_sub (value range.high) (value range.low)
  rw [span]
  norm_num at low high ⊢
  linarith

/-- A number near a whole one stays near it when it is rounded. -/
theorem rounds_near {q : ℚ} {x : Float} (rounds : Rounds q x) (few : count ≤ 2 ^ 49)
    (near : |q - count| ≤ 1 / 4) : x.isFinite = true ∧ |value x - count| ≤ 1 / 4 := by
  have few : (count : ℚ) ≤ 2 ^ 49 := by exact_mod_cast few
  have nonneg : (0 : ℚ) ≤ count := Nat.cast_nonneg count
  obtain ⟨below, above⟩ := abs_le.mp near
  have within : |q| ≤ 2 ^ (50 : ℤ) := by
    rw [abs_le]
    norm_num
    constructor <;> linarith
  have bounded := rounds.isFinite (isExact_two_zpow (by norm_num))
    (two_zpow_lt_limit (by norm_num)) within
  have kept := rounds.value_eq_rounded (isExact_two_zpow (by norm_num))
    (two_zpow_lt_limit (by norm_num)) within
  -- What is a quarter away from a whole number is held exactly, so rounding does not pass it.
  have quarter : ∀ side : ℤ, |side| ≤ 1 → IsExact (count + side / 4) := by
    intro side small
    refine ⟨4 * count + side, -2, ?_, by norm_num, ?_⟩
    · have small := abs_le.mp small
      have few : (count : ℤ) ≤ 2 ^ 49 := by exact_mod_cast few
      rw [abs_lt]
      omega
    · norm_num
      ring
  have lower := rounded_mono (show (count : ℚ) + (-1 : ℤ) / 4 ≤ q by push_cast; linarith)
  have upper := rounded_mono (show q ≤ (count : ℚ) + (1 : ℤ) / 4 by push_cast; linarith)
  rw [(quarter (-1) (by norm_num)).rounded] at lower
  rw [(quarter 1 (by norm_num)).rounded] at upper
  push_cast at lower upper
  refine ⟨bounded, ?_⟩
  rw [kept, abs_le]
  constructor <;> linarith

/-- The steps between the bounds are counted rightly. -/
theorem IsProper.count_eq (proper : range.IsProper) (grid : range.IsGrid count)
    (modest : range.IsModest count) :
    (roundWhole ((range.high - range.low) / range.step)).isFinite = true ∧
      value (roundWhole ((range.high - range.low) / range.step)) = count := by
  have positive := proper.step_pos
  have few : (count : ℚ) ≤ 2 ^ 49 := by exact_mod_cast modest.few
  have wide := modest.span_le grid
  have span : value range.high - value range.low = count * value range.step := by
    rw [grid]
    ring
  have apart := rounds_sub proper.high proper.low
  rw [span] at apart
  have exact := isExact_two_zpow (e := 41) (by norm_num)
  have small := two_zpow_lt_limit (e := 41) (by norm_num)
  have finite := apart.isFinite exact small wide
  have error := (isExact_value proper.step).abs_rounded_mul_sub_le count
  rw [← apart.value_eq_rounded exact small wide] at error
  have counted := rounds_div finite proper.step positive.ne'
  -- The error of the distance is relative to it: it is less than a quarter of a step.
  have near : |value (range.high - range.low) / value range.step - count| ≤ 1 / 4 := by
    have scaled : value (range.high - range.low) / value range.step - count =
        (value (range.high - range.low) - count * value range.step) / value range.step := by
      field_simp
    rw [scaled, abs_div, abs_of_pos positive, div_le_iff₀ positive]
    rw [abs_of_nonneg (mul_nonneg (Nat.cast_nonneg count) positive.le)] at error
    refine error.trans ?_
    rw [div_le_iff₀ (by norm_num)]
    have := mul_le_mul_of_nonneg_right few positive.le
    norm_num at this ⊢
    linarith
  obtain ⟨bounded, close⟩ := rounds_near counted modest.few near
  obtain ⟨finite, whole⟩ := roundWhole_eq bounded
  refine ⟨finite, ?_⟩
  rw [whole, halfAway_eq (n := count)]
  · exact Int.cast_natCast count
  · rw [Int.cast_natCast]
    linarith

/-- The upper bound is put back onto the grid almost where it was. -/
theorem IsProper.snap_high (proper : range.IsProper) (grid : range.IsGrid count)
    (modest : range.IsModest count) :
    (range.snap range.high).isFinite = true ∧
      |value (range.snap range.high) - value range.high| ≤ 1 / 2 ^ 10 := by
  obtain ⟨finite, counted⟩ := proper.count_eq grid modest
  have scaled := rounds_mul finite proper.step
  rw [counted] at scaled
  obtain ⟨bounded, error⟩ := scaled.error (by norm_num) (by norm_num) (modest.span_le grid)
  have shifted := rounds_add bounded proper.low
  obtain ⟨low, high, -⟩ := modest
  rw [IsGrid] at grid
  rw [abs_le] at error low high
  norm_num at error low high
  have sum : |value (roundWhole ((range.high - range.low) / range.step) * range.step) +
      value range.low| ≤ 2 ^ (42 : ℤ) := by
    rw [abs_le]
    norm_num
    constructor <;> linarith
  obtain ⟨finite, rest⟩ := shifted.error (by norm_num) (by norm_num) sum
  refine ⟨finite, ?_⟩
  rw [abs_le] at rest ⊢
  norm_num at rest ⊢
  unfold snap
  constructor <;> linarith

end NumericRange

namespace Recommendation

variable {x y : Float}

theorem roundWhole_near (finite : x.isFinite = true) (bounded : y.isFinite = true)
    (kept : value (roundWhole x) = value x) (near : |value y - value x| ≤ 1 / 2 ^ 10) :
    value (roundWhole y) = value x := by
  obtain ⟨-, first⟩ := roundWhole_eq finite
  obtain ⟨-, second⟩ := roundWhole_eq bounded
  rw [kept] at first
  rw [second, first, Int.cast_inj]
  refine halfAway_eq ?_
  rw [← first]
  exact near.trans_lt (by norm_num)

/-- A hundredfold is rounded by little. -/
theorem hundredfold (finite : x.isFinite = true) (moderate : |value x| ≤ 2 ^ 41) :
    (x * 100.0).isFinite = true ∧ |value (x * 100.0) - value x * 100| ≤ 1 / 2 ^ 5 := by
  have scaled := rounds_mul finite isFinite_hundred
  rw [value_hundred] at scaled
  rw [abs_le] at moderate
  norm_num at moderate
  have within : |value x * 100| ≤ 2 ^ (48 : ℤ) := by
    rw [abs_le]
    norm_num
    constructor <;> linarith
  obtain ⟨bounded, error⟩ := scaled.error (by norm_num) (by norm_num) within
  refine ⟨bounded, error.trans ?_⟩
  norm_num

/-- A hundredth of a whole number, as the last rounding has it. -/
theorem rounds_hundredth (finite : x.isFinite = true) :
    Rounds (halfAway (value x) / 100) (roundWhole x / 100.0) := by
  obtain ⟨whole, same⟩ := roundWhole_eq finite
  have divided := rounds_div whole isFinite_hundred (by rw [value_hundred]; norm_num)
  rwa [same, value_hundred] at divided

/-- The hundredths of a number that has two places. -/
theorem hundredths_near (finite : x.isFinite = true) (moderate : |value x| ≤ 2 ^ 40)
    (kept : value (roundWhole (x * 100.0) / 100.0) = value x) :
    ∃ n : ℤ, |value x * 100 - n| ≤ 1 / 2 ^ 5 ∧ saturated (n / 100) = value x := by
  obtain ⟨bounded, error⟩ := hundredfold finite (moderate.trans (by norm_num))
  have divided := rounds_hundredth bounded
  have half := abs_halfAway_sub_le (value (x * 100.0))
  refine ⟨halfAway (value (x * 100.0)), ?_, divided.value.symm.trans kept⟩
  rw [abs_le] at moderate error half
  norm_num at moderate error half
  have size : |(halfAway (value (x * 100.0)) : ℚ) / 100| ≤ 2 ^ (41 : ℤ) := by
    rw [abs_le]
    norm_num
    constructor <;> linarith
  obtain ⟨-, last⟩ := divided.error (by norm_num) (by norm_num) size
  rw [kept, abs_le] at last
  rw [abs_le]
  norm_num at last ⊢
  constructor <;> linarith

theorem real_near (finite : x.isFinite = true) (bounded : y.isFinite = true)
    (moderate : |value x| ≤ 2 ^ 40) (kept : value (roundWhole (x * 100.0) / 100.0) = value x)
    (near : |value y - value x| ≤ 1 / 2 ^ 10) :
    value (roundWhole (y * 100.0) / 100.0) = value x := by
  obtain ⟨n, close, last⟩ := hundredths_near finite moderate kept
  rw [abs_le] at moderate near close
  norm_num at moderate near close
  have small : |value y| ≤ 2 ^ 41 := by
    rw [abs_le]
    norm_num
    constructor <;> linarith
  obtain ⟨held, error⟩ := hundredfold bounded small
  have same : halfAway (value (y * 100.0)) = n := by
    refine halfAway_eq ?_
    rw [abs_le] at error
    norm_num at error
    rw [abs_lt]
    constructor <;> linarith
  rw [(rounds_hundredth held).value, same, last]

/-- A number that its last rounding leaves alone attracts what is close to it. -/
theorem roundFor_near (kind : ParameterKind) (finite : x.isFinite = true)
    (bounded : y.isFinite = true) (moderate : |value x| ≤ 2 ^ 40)
    (kept : value (roundFor kind x) = value x) (near : |value y - value x| ≤ 1 / 2 ^ 10) :
    value (roundFor kind y) = value x := by
  cases kind with
  | integer => exact roundWhole_near finite bounded kept near
  | real => exact real_near finite bounded moderate kept near
  | category => exact real_near finite bounded moderate kept near

/-- Whether the last rounding leaves both bounds alone. -/
structure KeepsBounds (kind : ParameterKind) (range : NumericRange) : Prop where
  low : value (roundFor kind range.low) = value range.low
  high : value (roundFor kind range.high) = value range.high

/-- Numbers of the same value are rounded to numbers of the same value. -/
theorem value_roundFor_congr (kind : ParameterKind) (number : x.isNaN = false)
    (another : y.isNaN = false) (same : value x = value y) :
    value (roundFor kind x) = value (roundFor kind y) :=
  (value_le_of_le (roundFor_mono kind ((le_iff_value number another).mpr same.le))).antisymm
    (value_le_of_le (roundFor_mono kind ((le_iff_value another number).mpr same.ge)))

/-- On a grid that begins and ends with the bounds every blend comes to something within them. -/
theorem settle_within {kind : ParameterKind} {range : NumericRange} {count : ℕ}
    (proper : range.IsProper) (grid : range.IsGrid count) (modest : range.IsModest count)
    (keeps : KeepsBounds kind range) (blend : Float) :
    range.low ≤ settle kind range blend ∧ settle kind range blend ≤ range.high := by
  obtain ⟨lower, upper⟩ := settle_mem kind proper blend
  have number := (isNaN_of_le lower).2
  obtain ⟨finite, least⟩ := proper.snap_low
  obtain ⟨bounded, most⟩ := proper.snap_high grid modest
  have bottom := value_roundFor_congr kind (isNaN_of_isFinite finite)
    (isNaN_of_isFinite proper.low) least
  have top := roundFor_near kind proper.high bounded modest.high keeps.high most
  constructor
  · rw [le_iff_value (isNaN_of_isFinite proper.low) number, ← keeps.low, ← bottom]
    exact value_le_of_le lower
  · rw [le_iff_value number (isNaN_of_isFinite proper.high), ← top]
    exact value_le_of_le upper

/-- For a numeric parameter what is suggested is a blend that was settled. -/
theorem suggest?_numeric {elite : List Trial} {best : Trial} {weight : Float}
    {parameter : Parameter} {range : NumericRange} {cell : Cell}
    (isNumeric : parameter.kind.isNumeric = true) (ranged : parameter.range = some range)
    (said : suggest? elite best weight parameter = some cell) :
    ∃ blend, cell = .number (settle parameter.kind range blend) := by
  have blended : blend? elite best parameter.name parameter.kind range weight = some cell := by
    obtain ⟨name, kind, unit, given⟩ := parameter
    obtain rfl : given = some range := ranged
    cases kind with
    | category => cases isNumeric
    | integer => exact said
    | real => exact said
  dsimp only [blend?] at blended
  split at blended
  · cases blended
  · obtain ⟨value, -, rfl⟩ := Option.map_eq_some_iff.mp blended
    exact ⟨_, rfl⟩

end Recommendation

namespace Dataset

variable {stem data metadata : String} {dataset : Dataset}

theorem isProper_of_accepted (accepted : ofTexts stem data metadata = .ok dataset) :
    ∀ parameter ∈ dataset.parameters, parameter.IsProper := by
  obtain ⟨_, _, _, -, -, meant, -, rfl⟩ := ofTexts_eq_ok_iff.mp accepted
  exact Column.isProper_of_described meant

theorem nodup_of_accepted (accepted : ofTexts stem data metadata = .ok dataset) :
    dataset.parameterNames.Nodup := by
  obtain ⟨_, -, described⟩ := isDescribedBy_of_accepted accepted
  exact described.distinct

end Dataset

namespace Advice

variable {dataset : Dataset} {preferences : Preferences} {parameter : Parameter}

/-- What is recommended for a parameter is what the trials say about it. -/
theorem said_of_recommended {cell : Cell} (distinct : dataset.parameterNames.Nodup)
    (member : parameter ∈ dataset.parameters)
    (recommended : (made dataset preferences).recommendation.get? parameter.name = some cell) :
    said? dataset preferences parameter = some cell := by
  cases held : dataset.held? parameter.name with
  | none => rwa [get?_recommendation_made distinct member held] at recommended
  | some value =>
    have fixed : (made dataset preferences).ranking.fixed.contains parameter.name = true := by
      rw [NameMap.contains, get?_fixed_made member, held]
      rfl
    have absent : (made dataset preferences).recommendation.get? parameter.name = none :=
      Recommendation.get?_choices_of_fixed fixed ..
    rw [recommended] at absent
    cases absent

theorem said_numeric {range : NumericRange} {cell : Cell} (blending : preferences.bestOnly = false)
    (isNumeric : parameter.kind.isNumeric = true) (ranged : parameter.range = some range)
    (said : said? dataset preferences parameter = some cell) :
    ∃ blend, cell = .number (Recommendation.settle parameter.kind range blend) := by
  unfold said? Recommendation.choice? at said
  rw [blending] at said
  split at said
  · cases said
  · exact Recommendation.suggest?_numeric isNumeric ranged said

/-- What a blend recommends for a numeric parameter is a number between those that its bounds come
to, and within the bounds if they are on their own grid and the last rounding keeps them. -/
theorem ofDataset_within_bounds {stem data metadata : String}
    (accepted : Dataset.ofTexts stem data metadata = .ok dataset)
    (possible : Recommendation.isWeight preferences.weight = true)
    (known : ∀ person ∈ preferences.persons, person ∈ dataset.persons)
    (blending : preferences.bestOnly = false) :
    ∃ advice, ofDataset dataset preferences = .ok advice ∧
      ∀ parameter ∈ dataset.parameters, parameter.kind.isNumeric = true →
        ∃ range, parameter.range = some range ∧
          ∀ cell, advice.recommendation.get? parameter.name = some cell →
            ∃ x, cell = .number x ∧
              Recommendation.roundFor parameter.kind (range.snap range.low) ≤ x ∧
              x ≤ Recommendation.roundFor parameter.kind (range.snap range.high) ∧
              ∀ count, range.IsGrid count → range.IsModest count →
                Recommendation.KeepsBounds parameter.kind range →
                  range.low ≤ x ∧ x ≤ range.high := by
  have suitable := Preferences.fault?_eq_none_iff.mpr ⟨possible, known⟩
  refine ⟨made dataset preferences, ofDataset_eq suitable, fun parameter member isNumeric => ?_⟩
  obtain ⟨range, ranged, proper⟩ :=
    (Dataset.isProper_of_accepted accepted parameter member).numeric isNumeric
  refine ⟨range, ranged, fun cell recommended => ?_⟩
  have said := said_of_recommended (Dataset.nodup_of_accepted accepted) member recommended
  obtain ⟨blend, rfl⟩ := said_numeric blending isNumeric ranged said
  obtain ⟨lower, upper⟩ := Recommendation.settle_mem parameter.kind proper blend
  exact ⟨_, rfl, lower, upper, fun count grid modest keeps =>
    Recommendation.settle_within proper grid modest keeps blend⟩

/-- A blend that is far above the bounds. -/
theorem ofDataset_within_bounds_of_temp :
    let data := "temp,nick\n97.25,8\n"
    let metadata := "type,name,low,high,step,parameter type\n" ++
      "parameter,temp,88,96,2,real\nscore,nick\n"
    let range : NumericRange := ⟨88, 96, 2⟩
    let dataset : Dataset := ⟨"v60.", [.ofList [("temp", .number 97.25), ("nick", .number 8)]],
      [⟨"temp", .real, none, some range⟩], ["nick"]⟩
    let preferences : Preferences := ⟨.mean, ["nick"], 0.25, false⟩
    Dataset.ofTexts "v60." data metadata = .ok dataset ∧
      (ofDataset dataset preferences).map (·.recommendation.get? "temp") =
        .ok (some (.number 96)) ∧ range.low ≤ 96 ∧ (96 : Float) ≤ range.high := by
  intro data metadata range dataset preferences
  have accepted : Dataset.ofTexts "v60." data metadata = .ok dataset := by decide +kernel
  have possible : Recommendation.isWeight preferences.weight = true := by decide +kernel
  have known : ∀ person ∈ preferences.persons, person ∈ dataset.persons := by decide
  have low : value range.low = 88 := (exact_ofNat (n := 88) (by norm_num)).2
  have high : value range.high = 96 := (exact_ofNat (n := 96) (by norm_num)).2
  have step : value range.step = 2 := (exact_ofNat (n := 2) (by norm_num)).2
  have grid : range.IsGrid 4 := by
    rw [NumericRange.IsGrid, low, high, step]
    norm_num
  have modest : range.IsModest 4 := by
    constructor
    · rw [low]
      norm_num
    · rw [high]
      norm_num
    · norm_num
  have keeps : Recommendation.KeepsBounds .real range := by
    constructor
    · exact congrArg value (show Recommendation.roundFor .real 88 = 88 by decide +kernel)
    · exact congrArg value (show Recommendation.roundFor .real 96 = 96 by decide +kernel)
  obtain ⟨advice, made, settled⟩ := ofDataset_within_bounds accepted possible known rfl
  have found : (ofDataset dataset preferences).map (·.recommendation.get? "temp") =
      .ok (some (.number 96)) := by decide +kernel
  obtain ⟨_, ranged, within⟩ := settled _ (.head _) rfl
  obtain rfl := Option.some.inj ranged
  rw [made] at found
  obtain ⟨x, same, -, -, bounded⟩ := within _ (Except.ok.inj found)
  obtain rfl := Cell.number.inj same
  rw [made]
  exact ⟨accepted, found, bounded 4 grid modest keeps⟩

/-- A bound with three decimals is on its grid, and what is recommended there is above it. -/
theorem recommends_above_high :
    let data := "dose,nick\n0.875,8\n"
    let metadata := "type,name,low,high,step,parameter type\n" ++
      "parameter,dose,0.125,0.875,0.125,real\nscore,nick\n"
    let range : NumericRange := ⟨0.125, 0.875, 0.125⟩
    let dataset : Dataset := ⟨"v60.", [.ofList [("dose", .number 0.875), ("nick", .number 8)]],
      [⟨"dose", .real, none, some range⟩], ["nick"]⟩
    let preferences : Preferences := ⟨.mean, ["nick"], 0.5, false⟩
    Dataset.ofTexts "v60." data metadata = .ok dataset ∧
      Recommendation.isWeight preferences.weight = true ∧
      (∀ person ∈ preferences.persons, person ∈ dataset.persons) ∧ range.IsGrid 6 ∧
      (ofDataset dataset preferences).map (·.recommendation.get? "dose") =
        .ok (some (.number 0.88)) ∧ range.high < 0.88 := by
  intro data metadata range dataset preferences
  have eighth : value 0.125 = 1 / 8 := by
    have bits : (0.125 : Float) = .ofBits 0x3FC0000000000000 := by decide +kernel
    have parts : value (.ofBits 0x3FC0000000000000) =
      worth (.finite .positive (2 ^ 52) (-55) (by decide)) := rfl
    rw [bits, parts, worth_positive]
    norm_num
  have seven : value 0.875 = 7 / 8 := by
    have bits : (0.875 : Float) = .ofBits 0x3FEC000000000000 := by decide +kernel
    have parts : value (.ofBits 0x3FEC000000000000) =
      worth (.finite .positive (7 * 2 ^ 50) (-53) (by decide)) := rfl
    rw [bits, parts, worth_positive]
    norm_num
  have grid : range.IsGrid 6 := by
    rw [NumericRange.IsGrid, eighth, seven]
    norm_num
  exact ⟨by decide +kernel, by decide +kernel, by decide, grid, by decide +kernel,
    by decide +kernel⟩

end Advice
end Cupping
