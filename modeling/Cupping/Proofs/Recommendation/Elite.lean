import Cupping.Proofs.Binary64.Counting
import Cupping.Recommendation

/-!
The size of the elite. A quarter is taken of the number of trials as a double, which is exact; so is
the double itself for as many trials as a significand can count.
-/

namespace Cupping

open Binary64

namespace Binary64

/-- A double that is not below one has digits to spare below it. -/
theorem IsExact.quarter {q : ℚ} (exact : IsExact q) (large : 1 ≤ |q|) : IsExact (q / 4) := by
  obtain ⟨n, same⟩ := exact.exists_place
  have log : Int.log 2 (1 : ℚ) ≤ Int.log 2 |q| := Int.log_mono_right one_pos large
  have least : -52 ≤ place q := by
    rw [Int.log_one_right] at log
    unfold place
    omega
  have bound : |(n : ℚ)| * 2 ^ place q < 2 ^ (53 : ℤ) * 2 ^ place q := by
    have within := abs_lt_two_zpow_place q
    have size : |q| = |(n : ℚ)| * 2 ^ place q := by
      conv_lhs => rw [same, abs_mul, abs_of_pos (two_zpow_pos _)]
    rwa [size, zpow_add₀ (by norm_num), mul_comm (2 ^ place q)] at within
  refine ⟨n, place q - 2, ?_, by omega, ?_⟩
  · exact_mod_cast lt_of_mul_lt_mul_right bound (two_zpow_pos _).le
  · calc q / 4 = n * 2 ^ place q / 2 ^ (2 : ℤ) := by rw [← same]; norm_num
      _ = n * 2 ^ (place q - 2) := by rw [zpow_sub₀ (by norm_num), mul_div_assoc]

theorem value_quarter : value 0.25 = 1 / 4 := by
  have parts : (0.25 : Float).toModel.unpack = .finite .positive (2 ^ 52) (-54) (by decide) := rfl
  rw [value, parts, worth_positive]
  norm_num

end Binary64

namespace Recommendation

variable {count : ℕ}

/-- The quarter of the number of trials is exact, and only its fraction is dropped. -/
theorem quarter_count (fits : count < 2 ^ 64) :
    (Float.ofNat count * 0.25).toUInt64.toNat = ⌊value (Float.ofNat count) / 4⌋₊ := by
  have within := isWithin_count fits
  have upper := (abs_le.mp within.size).2
  have size : value (Float.ofNat count) = 0 ∨ 1 ≤ value (Float.ofNat count) := by
    rcases Nat.eq_zero_or_pos count with rfl | positive
    · exact .inl (exact_ofNat (by norm_num)).2
    · exact .inr (one_le_value_count positive fits)
  have nonneg : 0 ≤ value (Float.ofNat count) := by
    rcases size with zero | large
    · exact zero.ge
    · exact zero_le_one.trans large
  have exact : IsExact (value (Float.ofNat count) / 4) := by
    rcases size with zero | large
    · rw [zero, zero_div]
      exact isExact_zero
    · exact (isExact_value within.finite).quarter (large.trans (le_abs_self _))
  have fraction : value (Float.ofNat count) / 4 < 2 ^ (64 : ℤ) := by
    norm_num at upper ⊢
    linarith
  have product := rounds_mul within.finite (show (0.25 : Float).isFinite = true by decide)
  rw [value_quarter, mul_one_div] at product
  obtain ⟨finite, quarter⟩ := product.exact exact (by
    rw [abs_of_nonneg (by linarith)]
    exact fraction.trans (two_zpow_lt_limit (by norm_num)))
  rw [← quarter] at fraction ⊢
  apply toNat_toUInt64 finite
  · rw [quarter]
    linarith
  · exact_mod_cast fraction

/-- The elite is a quarter of the number of trials as a double, at least three, at most all. -/
theorem eliteCount_eq (fits : count < 2 ^ 64) :
    eliteCount count = min (max 3 ⌊value (Float.ofNat count) / 4⌋₊) count := by
  rw [eliteCount, quarter_count fits]

/-- As a double the number is what it is, as long as a significand can count it. -/
theorem value_ofNat (few : count ≤ 2 ^ 53) : value (Float.ofNat count) = count := by
  have exact : IsExact count := by
    rcases few.lt_or_eq with short | rfl
    · exact isExact_natCast short
    · have power := isExact_two_zpow (e := 53) (by norm_num)
      exact_mod_cast power
  have bound : (count : ℚ) ≤ 2 ^ (53 : ℤ) := by exact_mod_cast few
  apply (rounds_natCast count).value_eq exact
  rw [Nat.abs_cast]
  exact bound.trans_lt (two_zpow_lt_limit (by norm_num))

theorem floor_quarter (few : count ≤ 2 ^ 53) :
    ⌊value (Float.ofNat count) / 4⌋₊ = count / 4 := by
  rw [value_ofNat few]
  exact_mod_cast Nat.floor_div_natCast (count : ℚ) 4

theorem eliteCount_mono {more : ℕ} (le : count ≤ more) (fits : more < 2 ^ 64) :
    eliteCount count ≤ eliteCount more := by
  have quarters : value (Float.ofNat count) / 4 ≤ value (Float.ofNat more) / 4 :=
    div_le_div_of_nonneg_right (value_count_mono le fits) (by norm_num)
  rw [eliteCount_eq (le.trans_lt fits), eliteCount_eq fits]
  exact min_le_min (max_le_max_left 3 (Nat.floor_mono quarters)) le

/-- Whatever the quarter is, the elite are three trials or more, as far as there are any. -/
theorem eliteCount_mem (count : ℕ) : min count 3 ≤ eliteCount count ∧ eliteCount count ≤ count := by
  unfold eliteCount
  constructor
  · exact le_min ((min_le_right count 3).trans (le_max_left _ _)) (min_le_left count 3)
  · exact min_le_right _ _

/-- The elite are the first of the ranked trials, with the best one among them. -/
theorem take_eliteCount (trials : List Trial) :
    (trials.take (eliteCount trials.length)).length = eliteCount trials.length ∧
      (trials.take (eliteCount trials.length)).head? = trials.head? := by
  obtain ⟨least, most⟩ := eliteCount_mem trials.length
  constructor
  · exact List.length_take_of_le most
  · cases trials with
    | nil => rw [List.take_nil]
    | cons best rest =>
      have filled : eliteCount (best :: rest).length ≠ 0 := by
        rw [List.length_cons] at least ⊢
        omega
      rw [List.head?_take, if_neg filled]

/-- Counted through doubles, the elite are the exact quarter of up to `2 ^ 53` trials, at least
three and at most all. More trials never have a smaller elite, and no elite goes past its trials or
misses the best one. -/
theorem eliteCount_quarter :
    (∀ count ≤ 2 ^ 53, eliteCount count = min count (max 3 (count / 4))) ∧
    (∀ count more, count ≤ more → more < 2 ^ 64 → eliteCount count ≤ eliteCount more) ∧
    (∀ count, min count 3 ≤ eliteCount count ∧ eliteCount count ≤ count) ∧
    ∀ trials : List Trial,
      (trials.take (eliteCount trials.length)).length = eliteCount trials.length ∧
        (trials.take (eliteCount trials.length)).head? = trials.head? := by
  refine ⟨fun count few => ?_, fun _ _ => eliteCount_mono, eliteCount_mem, take_eliteCount⟩
  rw [eliteCount_eq (few.trans_lt (by norm_num)), floor_quarter few, min_comm]

/-- A few trials, the last number of them that counts exactly in any case, and two beyond it. -/
theorem eliteCount_quarter_of_many :
    eliteCount 17 = 4 ∧ eliteCount (2 ^ 53) = 2 ^ 51 ∧
      eliteCount (2 ^ 54 + 6) ≤ eliteCount (2 ^ 64 - 1) := by
  obtain ⟨exact, mono, -⟩ := eliteCount_quarter
  exact ⟨exact 17 (by norm_num), exact (2 ^ 53) le_rfl, mono _ _ (by norm_num) (by norm_num)⟩

end Recommendation
end Cupping
