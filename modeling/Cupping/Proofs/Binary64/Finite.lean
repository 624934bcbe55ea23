import Cupping.Proofs.Binary64.Size

/-!
What a finite result tells: its operands were finite, and it is the exact result, rounded.
-/

namespace Cupping.Binary64

open Float.Model (UnpackedFloat)
open Float.Model.UnpackedFloat

variable {first second parts : UnpackedFloat} {x y : Float} {q : ℚ}

/-! The operations on parts. -/

theorem isFinite_of_pack (finite : (Float.Model.pack parts).unpack.isFinite = true) :
    parts.isFinite = true := by
  cases parts with
  | infinity sign =>
    rw [unpack_pack_infinity] at finite
    exact finite
  | notANumber =>
    rw [unpack_pack_of_isCanonical .notANumber] at finite
    exact finite
  | zero sign => rfl
  | finite sign m e positive => rfl

theorem isFinite_add_parts (finite : (add .binary64 first second).isFinite = true) :
    first.isFinite = true ∧ second.isFinite = true := by
  cases first with
  | notANumber => cases finite
  | infinity s =>
    cases second with
    | infinity t => cases s <;> cases t <;> cases finite
    | notANumber | zero | finite => cases finite
  | zero s =>
    cases second with
    | infinity t => cases finite
    | notANumber => cases finite
    | zero | finite => exact ⟨rfl, rfl⟩
  | finite s m e positive =>
    cases second with
    | infinity t => cases finite
    | notANumber => cases finite
    | zero | finite => exact ⟨rfl, rfl⟩

theorem isFinite_mul_parts (finite : (mul .binary64 first second).isFinite = true) :
    first.isFinite = true ∧ second.isFinite = true := by
  cases first with
  | notANumber => cases finite
  | infinity s => cases second <;> cases finite
  | zero s =>
    cases second with
    | infinity t => cases finite
    | notANumber => cases finite
    | zero | finite => exact ⟨rfl, rfl⟩
  | finite s m e positive =>
    cases second with
    | infinity t => cases finite
    | notANumber => cases finite
    | zero | finite => exact ⟨rfl, rfl⟩

theorem isFinite_div_parts (finite : (div .binary64 first second).isFinite = true) :
    first.isFinite = true := by
  cases first with
  | notANumber => cases finite
  | infinity s => cases second <;> cases finite
  | zero | finite => rfl

theorem isFinite_sqrt_parts (finite : (sqrt .binary64 parts).isFinite = true) :
    parts.isFinite = true := by
  cases parts with
  | notANumber => cases finite
  | infinity s => cases s <;> cases finite
  | zero | finite => rfl

/-! The operations on doubles. -/

theorem isFinite_of_add (finite : (x + y).isFinite = true) :
    x.isFinite = true ∧ y.isFinite = true :=
  isFinite_add_parts (isFinite_of_pack finite)

theorem isFinite_of_sub (finite : (x - y).isFinite = true) :
    x.isFinite = true ∧ y.isFinite = true := by
  have parts : (sub .binary64 x.toModel.unpack y.toModel.unpack).isFinite = true :=
    isFinite_of_pack finite
  rw [sub_eq_add_opposite] at parts
  obtain ⟨one, other⟩ := isFinite_add_parts parts
  exact ⟨one, (isFinite_neg _).symm.trans other⟩

theorem isFinite_of_mul (finite : (x * y).isFinite = true) :
    x.isFinite = true ∧ y.isFinite = true :=
  isFinite_mul_parts (isFinite_of_pack finite)

theorem isFinite_of_div (finite : (x / y).isFinite = true) : x.isFinite = true :=
  isFinite_div_parts (isFinite_of_pack finite)

theorem isFinite_of_sqrt (finite : x.sqrt.isFinite = true) : x.isFinite = true :=
  isFinite_sqrt_parts (isFinite_of_pack finite)

/-- A finite result is below the limit before it is cut off there. -/
theorem Rounds.value_of_isFinite (rounds : Rounds q x) (finite : x.isFinite = true) :
    Binary64.value x = rounded q := by
  have small := (isFinite_iff.mp finite).2
  rw [rounds.value] at small ⊢
  obtain ⟨lower, upper⟩ := abs_lt.mp small
  unfold saturated at lower upper ⊢
  have below : rounded q < limit := by
    rcases min_lt_iff.mp (max_lt_iff.mp upper).2 with less | absurd
    · exact less
    · exact (lt_irrefl _ absurd).elim
  have above : -limit < rounded q := by
    rcases lt_max_iff.mp lower with absurd | more
    · exact (lt_irrefl _ absurd).elim
    · exact (lt_min_iff.mp more).1
  rw [min_eq_left below.le, max_eq_right above.le]

/-- Only what is below the limit is rounded to something finite. -/
theorem Rounds.abs_lt_limit (rounds : Rounds q x) (finite : x.isFinite = true) : |q| < limit := by
  by_contra beyond
  have large := le_abs_rounded (isExact_two_zpow (by norm_num)) (not_lt.mp beyond)
  rw [← rounds.value_of_isFinite finite] at large
  exact large.not_gt (isFinite_iff.mp finite).2

/-- A product is no larger than the larger square. -/
theorem isFinite_mul_of_squares (first : (x * x).isFinite = true)
    (second : (y * y).isFinite = true) : (x * y).isFinite = true := by
  have left := (isFinite_of_mul first).1
  have right := (isFinite_of_mul second).1
  have product := rounds_mul left right
  refine isFinite_iff.mpr ⟨product.number, ?_⟩
  rw [product.value]
  wlog le : |value x| ≤ |value y| generalizing x y
  · have other := this second first right left (rounds_mul right left) (le_of_not_ge le)
    rwa [mul_comm] at other
  · have size := abs_lt.mp (isFinite_iff.mp second).2
    rw [(rounds_mul right right).value] at size
    have within : |value x * value y| ≤ value y * value y := by
      rw [abs_mul, ← abs_mul_abs_self (value y)]
      exact mul_le_mul_of_nonneg_right le (abs_nonneg _)
    obtain ⟨lower, upper⟩ := abs_le.mp within
    have below := saturated_mono lower
    rw [saturated_neg] at below
    exact abs_lt.mpr ⟨by linarith, (saturated_mono upper).trans_lt size.2⟩

end Cupping.Binary64
