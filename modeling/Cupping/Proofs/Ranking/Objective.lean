import Cupping.Proofs.Binary64.Counting
import Cupping.Proofs.Binary64.TotalOrder
import Cupping.Proofs.Dataset.Wording
import Cupping.Proofs.Ranking.Order

/-!
How large an objective can be. Whatever the method, it is no larger than the scores it is made of,
as long as their sum has room in a double.
-/

namespace Cupping

open Binary64

/-- An operation that always picks one of two values picks one of a list. -/
theorem foldl_mem_of_choice {α : Type} {pick : α → α → α}
    (choice : ∀ a b, pick a b = a ∨ pick a b = b) (first : α) (rest : List α) :
    rest.foldl pick first ∈ first :: rest := by
  induction rest generalizing first with
  | nil => exact .head _
  | cons next rest ih =>
    rw [List.foldl_cons]
    rcases List.mem_cons.mp (ih (pick first next)) with picked | later
    · rw [picked]
      rcases choice first next with same | same
      · rw [same]
        exact .head _
      · rw [same]
        exact .tail _ (.head _)
    · exact .tail _ (.tail _ later)

namespace Binary64

theorem larger_choice (x y : Float) : larger x y = x ∨ larger x y = y := by
  unfold larger
  split_ifs <;> simp

theorem smaller_choice (x y : Float) : smaller x y = x ∨ smaller x y = y := by
  unfold smaller
  split_ifs <;> simp

end Binary64

namespace Scoring

variable {values : List Float} {objective : Float} {e : ℤ}

/-- A median is one of the values or half the sum of two of them. -/
theorem median?_cases (found : median? values = some objective) :
    objective ∈ values ∨ ∃ below ∈ values, ∃ above ∈ values,
      objective = (below + above) / .ofNat 2 := by
  have sorted : ∀ {place : ℕ} {x : Float},
      (values.mergeSort totalLe)[place]? = some x → x ∈ values := fun placed =>
    List.mem_mergeSort.mp (List.mem_of_getElem? placed)
  have literal : (2.0 : Float) = .ofNat 2 := by decide
  dsimp only [median?] at found
  rw [literal] at found
  split at found
  · exact .inl (sorted found)
  · split at found
    · rename_i below above first second
      exact .inr ⟨below, sorted first, above, sorted second, (Option.some.inj found).symm⟩
    · cases found

/-- An objective is one of the scores, their mean, or half the sum of two of them. -/
theorem aggregate?_cases {method : ScoringMethod}
    (found : aggregate? method values = some objective) :
    objective ∈ values ∨ (values ≠ [] ∧ objective = mean values) ∨
      ∃ below ∈ values, ∃ above ∈ values, objective = (below + above) / .ofNat 2 := by
  cases values with
  | nil => cases found
  | cons first rest =>
    cases method with
    | mean => exact .inr (.inl ⟨List.cons_ne_nil _ _, (Option.some.inj found).symm⟩)
    | median => exact (median?_cases found).imp_right .inr
    | highest => exact .inl (Option.some.inj found ▸ foldl_mem_of_choice larger_choice first rest)
    | lowest => exact .inl (Option.some.inj found ▸ foldl_mem_of_choice smaller_choice first rest)

/-- An objective is about as limited as the scores are. -/
theorem isWithin_of_aggregate (least : -1074 ≤ e) (most : e < 1023)
    (each : ∀ x ∈ values, IsWithin (2 ^ e) x) (few : values.length < 2 ^ 53)
    (small : (values.length : ℚ) * 2 ^ e < limit) {method : ScoringMethod}
    (found : aggregate? method values = some objective) : IsWithin (2 ^ (e + 1)) objective := by
  have double : (2 : ℚ) ^ e + 2 ^ e = 2 ^ (e + 1) := by
    rw [two_zpow_succ, two_mul]
  have wider : (2 : ℚ) ^ e ≤ 2 ^ (e + 1) := zpow_le_zpow_right₀ (by norm_num) (by omega)
  have exact := isExact_two_zpow (e := e + 1) (by omega)
  have below := two_zpow_lt_limit (e := e + 1) (by omega)
  rcases aggregate?_cases found with member | ⟨some, rfl⟩ | ⟨x, first, y, second, rfl⟩
  · exact (each objective member).weaken wider
  · exact (isWithin_mean least each some few small).weaken wider
  · obtain ⟨finite, two⟩ := exact_ofNat (n := 2) (by norm_num)
    have sum := (each x first).add (each y second) (double ▸ exact) (double ▸ below)
    rw [double] at sum
    exact sum.div finite (by rw [two]; norm_num) exact below

end Scoring

namespace Cell

theorem isFinite_of_number? {cell : Cell} {x : Float} (given : cell.number? = some x) :
    x.isFinite = true := by
  cases cell with
  | text text => exact isFinite_of_readNumber? given
  | number value =>
    dsimp only [number?] at given
    split at given
    · rename_i finite
      exact Option.some.inj given ▸ finite
    · cases given

end Cell

/-! Every objective is a number, if not a finite one. -/

namespace Binary64

theorem isNaN_sum {values : List Float} (finite : ∀ x ∈ values, x.isFinite = true) :
    (sum values).isNaN = false := by
  have step : ∀ start : Float, start.isNaN = false →
      (values.foldl (· + ·) start).isNaN = false := by
    induction values with
    | nil => exact fun start number => number
    | cons first rest ih =>
      intro start number
      obtain ⟨bounded, others⟩ := List.forall_mem_cons.mp finite
      exact ih others _ ((computes_add bounded).isNaN number)
  exact step (-0.0) (by decide)

theorem isNaN_mean {values : List Float} (some : values ≠ []) (fits : values.length < 2 ^ 64)
    (finite : ∀ x ∈ values, x.isFinite = true) : (mean values).isNaN = false := by
  have count := one_le_value_count (List.length_pos_iff.mpr some) fits
  have divides := computes_div (isWithin_count fits).finite (zero_lt_one.trans_le count)
  exact divides.isNaN (isNaN_sum finite)

/-- Half of a sum is a number, even if the sum has no room. -/
theorem isNaN_half {x y : Float} (finite : x.isFinite = true) (bounded : y.isFinite = true) :
    ((x + y) / .ofNat 2).isNaN = false := by
  obtain ⟨whole, two⟩ := exact_ofNat (n := 2) (by norm_num)
  have sum := (computes_add bounded).isNaN (isNaN_of_isFinite finite)
  exact (computes_div whole (by rw [two]; norm_num)).isNaN sum

end Binary64

namespace Scoring

theorem isNaN_aggregate {values : List Float} {objective : Float} {method : ScoringMethod}
    (finite : ∀ x ∈ values, x.isFinite = true) (fits : values.length < 2 ^ 64)
    (found : aggregate? method values = some objective) : objective.isNaN = false := by
  rcases aggregate?_cases found with member | ⟨some, rfl⟩ | ⟨x, first, y, second, rfl⟩
  · exact isNaN_of_isFinite (finite objective member)
  · exact isNaN_mean some fits finite
  · exact isNaN_half (finite x first) (finite y second)

theorem isFinite_of_mem_readings {row : Row} {persons : List String} {x : Float}
    (read : x ∈ readings row persons) : x.isFinite = true := by
  obtain ⟨person, -, given⟩ := List.mem_filterMap.mp read
  obtain ⟨cell, -, number⟩ := Option.bind_eq_some_iff.mp given
  exact Cell.isFinite_of_number? number

/-- Only so many persons are needed for it as a machine word can count. -/
theorem isNaN_score {method : ScoringMethod} {row : Row} {persons : List String}
    {objective : Float} (fits : persons.length < 2 ^ 64)
    (scored : score? method row persons = some objective) : objective.isNaN = false :=
  isNaN_aggregate (fun _ => isFinite_of_mem_readings)
    ((List.length_filterMap_le ..).trans_lt fits) scored

end Scoring

namespace Dataset

/-- Whether the scores of a dataset that count are few and small enough for their sum: at most two
to some power are given for a brew, and they are smaller than the largest double by that power. -/
structure HasModerateScores (dataset : Dataset) (selected : List String) (power : ℕ) : Prop where
  few : (Ranking.effectiveScorers dataset selected).length ≤ 2 ^ power
  less : power ≤ 52
  small : ∀ row ∈ dataset.rows, ∀ person ∈ Ranking.effectiveScorers dataset selected, ∀ x,
    row.number? person = some x → |value x| ≤ 2 ^ (1022 - power : ℤ)

/-- With such scores every objective is finite. -/
theorem HasModerateScores.isFinite {dataset : Dataset} {selected : List String} {power : ℕ}
    (moderate : dataset.HasModerateScores selected power) {row : Row} (member : row ∈ dataset.rows)
    {method : ScoringMethod} {objective : Float}
    (scored : Scoring.score? method row (Ranking.effectiveScorers dataset selected) =
      some objective) : objective.isFinite = true := by
  obtain ⟨few, less, small⟩ := moderate
  have each : ∀ x ∈ Scoring.readings row (Ranking.effectiveScorers dataset selected),
      IsWithin (2 ^ (1022 - power : ℤ)) x := by
    intro x read
    obtain ⟨person, counted, given⟩ := List.mem_filterMap.mp read
    obtain ⟨cell, -, number⟩ := Option.bind_eq_some_iff.mp given
    exact ⟨Cell.isFinite_of_number? number, small row member person counted x given⟩
  have count : (Scoring.readings row (Ranking.effectiveScorers dataset selected)).length ≤
      2 ^ power := (List.length_filterMap_le ..).trans few
  have room : ((2 ^ power : ℕ) : ℚ) * 2 ^ (1022 - power : ℤ) = 2 ^ (1022 : ℤ) := by
    rw [Nat.cast_pow, Nat.cast_ofNat, ← zpow_natCast, ← zpow_add₀ (by norm_num)]
    congr 1
    omega
  refine (Scoring.isWithin_of_aggregate (by omega) (by omega) each ?_ ?_ scored).finite
  · exact count.trans_lt (Nat.pow_lt_pow_right (by norm_num) (by omega))
  · refine lt_of_le_of_lt ?_ (two_zpow_lt_limit (e := 1022) (by norm_num))
    rw [← room]
    exact mul_le_mul_of_nonneg_right (by exact_mod_cast count) (two_zpow_pos _).le

end Dataset
end Cupping
