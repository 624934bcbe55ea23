import Mathlib.Logic.Basic

/-!
Numeric comparison of doubles. Two finite doubles are always comparable, so that a bound which is
not below another is at least as large.
-/

namespace Cupping.Binary64

open Float.Model

/-- Magnitudes are compared by exponent and then by significand, from either side with the opposite
outcome. -/
theorem swap_magnitudes (e f : Int) (m n : Nat) :
    ((compare e f).then (compare m n)).swap = (compare f e).then (compare n m) := by
  rw [Ordering.swap_then, ← Std.OrientedOrd.eq_swap, ← Std.OrientedOrd.eq_swap]

/-- Finite doubles are compared from either side with the opposite outcome. -/
theorem exists_compare {x y : UnpackedFloat} (first : x.isFinite = true)
    (second : y.isFinite = true) :
    ∃ order, x.compare y = some order ∧ y.compare x = some order.swap := by
  cases x with
  | infinity _ => cases first
  | notANumber => cases first
  | zero s =>
    cases y with
    | infinity _ => cases second
    | notANumber => cases second
    | zero _ => exact ⟨.eq, rfl, rfl⟩
    | finite t n f _ => cases t <;> exact ⟨_, rfl, rfl⟩
  | finite s m e _ =>
    cases y with
    | infinity _ => cases second
    | notANumber => cases second
    | zero _ => cases s <;> exact ⟨_, rfl, rfl⟩
    | finite t n f _ =>
      cases s with
      | negative =>
        cases t with
        | negative => exact ⟨_, rfl, congrArg some (congrArg _ (swap_magnitudes e f m n).symm)⟩
        | positive => exact ⟨_, rfl, rfl⟩
      | positive =>
        cases t with
        | negative => exact ⟨_, rfl, rfl⟩
        | positive => exact ⟨_, rfl, congrArg some (swap_magnitudes e f m n).symm⟩

theorem lt_iff_compare {x y : Float} :
    x < y ↔ x.toModel.unpack.compare y.toModel.unpack = some .lt := by
  rw [← beq_iff_eq]
  exact decide_eq_true_iff

theorem le_iff_compare {x y : Float} :
    x ≤ y ↔ (x.toModel.unpack.compare y.toModel.unpack).any Ordering.isLE = true :=
  decide_eq_true_iff

/-- Of two finite doubles one is at most the other, unless the other is smaller. -/
theorem not_lt_iff_le {x y : Float} (first : x.isFinite = true) (second : y.isFinite = true) :
    ¬ y < x ↔ x ≤ y := by
  obtain ⟨order, forward, backward⟩ := exists_compare first second
  rw [lt_iff_compare, le_iff_compare, forward, backward]
  cases order <;> decide

theorem not_le_iff_lt {x y : Float} (first : x.isFinite = true) (second : y.isFinite = true) :
    ¬ y ≤ x ↔ x < y := by
  rw [← not_lt_iff_le second first, not_not]

end Cupping.Binary64
