import Cupping.Proofs.Binary64.TotalOrder
import Cupping.Proofs.Dataset.Metadata
import Cupping.Recommendation

/-!
How a blend becomes a suggestion: it is kept within the bounds, put on the grid and rounded for its
kind. Each of these steps keeps the order, so a suggestion lies between those that come of the two
bounds, whatever the blend is, also if it is no number.
-/

namespace Cupping

namespace Binary64

theorem isFinite_hundred : (100.0 : Float).isFinite = true := by decide

theorem value_hundred : value 100.0 = 100 := by
  have parts : (100.0 : Float).toModel.unpack =
    .finite .positive (100 * 2 ^ 46) (-46) (by decide) := rfl
  rw [value, parts, worth_positive]
  norm_num

end Binary64

open Binary64

namespace NumericRange

variable {range : NumericRange}

theorem IsProper.step_pos (proper : range.IsProper) : 0 < value range.step := by
  have positive := (lt_iff_value rfl (isNaN_of_isFinite proper.step)).mp proper.positive
  rwa [value_zero] at positive

/-- Whatever is clamped lies within the bounds, also what is no number. -/
theorem IsProper.clamp_mem (proper : range.IsProper) (v : Float) :
    range.low ≤ range.clamp v ∧ range.clamp v ≤ range.high :=
  ⟨le_smaller (le_larger v (isNaN_of_isFinite proper.low)) proper.ordered,
    smaller_le _ (isNaN_of_isFinite proper.high)⟩

/-- Putting on the grid keeps the order. -/
theorem IsProper.snap_mono (proper : range.IsProper) {x y : Float} (le : x ≤ y) :
    range.snap x ≤ range.snap y := by
  have positive := proper.step_pos
  have apart := (computes_sub proper.low).mono (fun _ _ ordered => sub_le_sub_right ordered _) le
  have counted := (computes_div proper.step positive).mono
    (fun _ _ ordered => div_le_div_of_nonneg_right ordered positive.le) apart
  have scaled := (computes_mul proper.step positive).mono
    (fun _ _ ordered => mul_le_mul_of_nonneg_right ordered positive.le) (roundWhole_mono counted)
  exact (computes_add proper.low).mono (fun _ _ ordered => add_le_add_left ordered _) scaled

end NumericRange

namespace Recommendation

theorem roundFor_mono (kind : ParameterKind) {x y : Float} (le : x ≤ y) :
    roundFor kind x ≤ roundFor kind y := by
  have positive : 0 < value 100.0 := by
    rw [value_hundred]
    norm_num
  have real : roundWhole (x * 100.0) / 100.0 ≤ roundWhole (y * 100.0) / 100.0 := by
    have scaled := (computes_mul isFinite_hundred positive).mono
      (fun _ _ ordered => mul_le_mul_of_nonneg_right ordered positive.le) le
    exact (computes_div isFinite_hundred positive).mono
      (fun _ _ ordered => div_le_div_of_nonneg_right ordered positive.le) (roundWhole_mono scaled)
  cases kind with
  | integer => exact roundWhole_mono le
  | real => exact real
  | category => exact real

/-- What a blend comes to. -/
def settle (kind : ParameterKind) (range : NumericRange) (blend : Float) : Float :=
  roundFor kind (range.snap (range.clamp blend))

theorem settle_mem (kind : ParameterKind) {range : NumericRange} (proper : range.IsProper)
    (blend : Float) :
    roundFor kind (range.snap range.low) ≤ settle kind range blend ∧
      settle kind range blend ≤ roundFor kind (range.snap range.high) := by
  obtain ⟨lower, upper⟩ := proper.clamp_mem blend
  exact ⟨roundFor_mono kind (proper.snap_mono lower), roundFor_mono kind (proper.snap_mono upper)⟩

end Recommendation
end Cupping
