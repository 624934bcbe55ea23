import Cupping.Proofs.Binary64.Arithmetic
import Cupping.Binary64.Dyadic

/-!
Operations that keep the order of doubles: adding to them, scaling them, and rounding them to whole
numbers. Whatever becomes infinite becomes so in order.
-/

namespace Cupping.Binary64

open Float.Model (UnpackedFloat)
open Float.Model.UnpackedFloat

/-- Whether a function on doubles is one on numbers, rounded, that leaves infinities as they are. -/
structure Computes (operation : Float → Float) (exact : ℚ → ℚ) : Prop where
  rounds : ∀ x, x.isFinite = true → Rounds (exact (value x)) (operation x)
  number : ∀ x, x.isInf = true → (operation x).isNaN = false
  infinite : ∀ x, x.isInf = true → value (operation x) = value x

variable {x y : Float}

theorem isFinite_or_isInf (number : x.isNaN = false) : x.isFinite = true ∨ x.isInf = true := by
  change x.toModel.unpack.isNaN = false at number
  change x.toModel.unpack.isFinite = true ∨ x.toModel.unpack.isInf = true
  rw [isFinite_eq, number]
  cases x.toModel.unpack.isInf <;> decide

theorem value_mem (x : Float) : -limit ≤ value x ∧ value x ≤ limit := by
  have top := limit_pos
  by_cases infinite : x.toModel.unpack.isInf = false
  · have within := (abs_worth_lt_limit_iff (isCanonical x)).mpr infinite
    exact abs_le.mp within.le
  · unfold value
    cases parts : x.toModel.unpack with
    | infinity sign => exact abs_le.mp (abs_worth_infinity sign).le
    | notANumber => exact ⟨neg_nonpos.mpr top.le, top.le⟩
    | zero sign => exact ⟨neg_nonpos.mpr top.le, top.le⟩
    | finite sign m e positive =>
      rw [parts] at infinite
      exact absurd rfl infinite

theorem exists_infinity (infinite : x.isInf = true) :
    ∃ sign, x.toModel.unpack = .infinity sign := by
  change x.toModel.unpack.isInf = true at infinite
  cases parts : x.toModel.unpack with
  | infinity sign => exact ⟨sign, rfl⟩
  | notANumber => rw [parts] at infinite; cases infinite
  | zero sign => rw [parts] at infinite; cases infinite
  | finite sign m e positive => rw [parts] at infinite; cases infinite

/-- An infinity is below or above all numbers. -/
theorem value_of_isInf (infinite : x.isInf = true) : value x = -limit ∨ value x = limit := by
  obtain ⟨sign, parts⟩ := exists_infinity infinite
  rw [value, parts]
  cases sign
  · exact .inl worth_infinity_negative
  · exact .inr worth_infinity_positive

variable {operation : Float → Float} {exact : ℚ → ℚ}

theorem Computes.isNaN (computes : Computes operation exact) (number : x.isNaN = false) :
    (operation x).isNaN = false := by
  rcases isFinite_or_isInf number with finite | infinite
  · exact (computes.rounds x finite).number
  · exact computes.number x infinite

/-- What computes a function that keeps the order keeps the order of doubles. -/
theorem Computes.mono (computes : Computes operation exact) (mono : Monotone exact) (le : x ≤ y) :
    operation x ≤ operation y := by
  obtain ⟨number, another⟩ := isNaN_of_le le
  rw [le_iff_value (computes.isNaN number) (computes.isNaN another)]
  have values := value_le_of_le le
  rcases isFinite_or_isInf number with finite | infinite
  · rcases isFinite_or_isInf another with bounded | unbounded
    · rw [(computes.rounds x finite).value, (computes.rounds y bounded).value]
      exact saturated_mono (mono values)
    · rw [computes.infinite y unbounded]
      rcases value_of_isInf unbounded with bottom | top
      · have within := abs_lt.mp (isFinite_iff.mp finite).2
        linarith
      · rw [top]
        exact (value_mem _).2
  · rw [computes.infinite x infinite]
    rcases value_of_isInf infinite with bottom | top
    · rw [bottom]
      exact (value_mem _).1
    · rcases isFinite_or_isInf another with bounded | unbounded
      · have within := abs_lt.mp (isFinite_iff.mp bounded).2
        linarith
      · rw [computes.infinite y unbounded]
        exact values

/-! The operations. -/

/-- An operation that gives back the parts of every infinity leaves infinities as they are. -/
theorem computes_of_parts (step : UnpackedFloat → UnpackedFloat)
    (parts : ∀ x, (operation x).toModel = Float.Model.pack (step x.toModel.unpack))
    (infinity : ∀ sign, step (.infinity sign) = .infinity sign)
    (rounds : ∀ x, x.isFinite = true → Rounds (exact (value x)) (operation x)) :
    Computes operation exact := by
  have kept : ∀ x sign, x.toModel.unpack = .infinity sign →
      (operation x).toModel.unpack = .infinity sign := fun x sign found => by
    rw [parts, found, infinity, unpack_pack_infinity]
  refine ⟨rounds, fun x infinite => ?_, fun x infinite => ?_⟩
  · obtain ⟨sign, found⟩ := exists_infinity infinite
    change (operation x).toModel.unpack.isNaN = false
    rw [kept x sign found]
    rfl
  · obtain ⟨sign, found⟩ := exists_infinity infinite
    rw [value, value, kept x sign found, found]

variable {c : Float}

theorem add_infinity {parts : UnpackedFloat} (bounded : parts.isFinite = true) (sign : Sign) :
    add .binary64 (.infinity sign) parts = .infinity sign := by
  cases parts with
  | infinity t => cases bounded
  | notANumber => cases bounded
  | zero t => rfl
  | finite t m e positive => rfl

theorem computes_add (bounded : c.isFinite = true) : Computes (· + c) (· + value c) := by
  refine computes_of_parts (add .binary64 · c.toModel.unpack) (fun _ => rfl) ?_ ?_
  · exact add_infinity bounded
  · exact fun x finite => rounds_add finite bounded

theorem computes_sub (bounded : c.isFinite = true) : Computes (· - c) (· - value c) := by
  refine computes_of_parts (sub .binary64 · c.toModel.unpack) (fun _ => rfl) (fun sign => ?_) ?_
  · rw [sub_eq_add_opposite]
    exact add_infinity ((isFinite_neg _).trans bounded) sign
  · exact fun x finite => rounds_sub finite bounded

/-- The parts of a positive double. -/
theorem exists_positive (bounded : c.isFinite = true) (positive : 0 < value c) :
    ∃ m e present, c.toModel.unpack = .finite .positive m e present := by
  change c.toModel.unpack.isFinite = true at bounded
  unfold value at positive
  cases parts : c.toModel.unpack with
  | infinity t => rw [parts] at bounded; cases bounded
  | notANumber => rw [parts] at bounded; cases bounded
  | zero t => rw [parts] at positive; exact absurd positive (lt_irrefl 0)
  | finite t m e present =>
    cases t with
    | negative =>
      rw [parts, worth_negative] at positive
      have magnitude := Fits.pos present e
      linarith
    | positive => exact ⟨m, e, present, rfl⟩

theorem computes_mul (bounded : c.isFinite = true) (positive : 0 < value c) :
    Computes (· * c) (· * value c) := by
  obtain ⟨m, e, present, parts⟩ := exists_positive bounded positive
  refine computes_of_parts (mul .binary64 · c.toModel.unpack) (fun _ => rfl) (fun sign => ?_) ?_
  · rw [parts]
    cases sign <;> rfl
  · exact fun x finite => rounds_mul finite bounded

theorem computes_div (bounded : c.isFinite = true) (positive : 0 < value c) :
    Computes (· / c) (· / value c) := by
  obtain ⟨m, e, present, parts⟩ := exists_positive bounded positive
  refine computes_of_parts (div .binary64 · c.toModel.unpack) (fun _ => rfl) (fun sign => ?_) ?_
  · rw [parts]
    cases sign <;> rfl
  · exact fun x finite => rounds_div finite bounded positive.ne'

end Cupping.Binary64
