import Mathlib

/-!
Rounding of rational numbers to those that a double can hold: to the nearest multiple of the last
place, of two equally near ones to the even one. It is odd, it keeps the order, and it leaves alone
what a double holds; so whatever lies between two doubles is rounded to something between them.
-/

namespace Cupping.Binary64

/-- The nearest whole number; of two equally near ones the even one. -/
def nearestEven (q : ℚ) : ℤ :=
  if Int.fract q < 1 / 2 then ⌊q⌋
  else if 1 / 2 < Int.fract q then ⌊q⌋ + 1
  else ⌊q⌋ + ⌊q⌋ % 2

theorem nearestEven_intCast (n : ℤ) : nearestEven n = n := by
  simp [nearestEven]

theorem floor_le_nearestEven (q : ℚ) : ⌊q⌋ ≤ nearestEven q := by
  unfold nearestEven
  split_ifs <;> omega

theorem nearestEven_le_floor_add_one (q : ℚ) : nearestEven q ≤ ⌊q⌋ + 1 := by
  unfold nearestEven
  split_ifs <;> omega

/-- A whole number is at most half away from what is rounded to it. -/
theorem abs_nearestEven_sub_le (q : ℚ) : |nearestEven q - q| ≤ 1 / 2 := by
  have whole := Int.floor_add_fract q
  have small := Int.fract_lt_one q
  have positive := Int.fract_nonneg q
  rw [abs_le, nearestEven]
  split_ifs with below above
  · constructor <;> linarith
  · push_cast
    constructor <;> linarith
  · rcases Int.emod_two_eq_zero_or_one ⌊q⌋ with even | odd
    · rw [even]
      push_cast
      constructor <;> linarith
    · rw [odd]
      push_cast
      constructor <;> linarith

/-- Numbers near a whole number are rounded to it. -/
theorem nearestEven_eq {q : ℚ} {n : ℤ} (near : |q - n| < 1 / 2) : nearestEven q = n := by
  have bound := (abs_sub_le (nearestEven q : ℚ) q n).trans_lt
    (add_lt_add_of_le_of_lt (abs_nearestEven_sub_le q) near)
  have apart : |nearestEven q - n| < 1 := by
    have : |((nearestEven q - n : ℤ) : ℚ)| < 1 := by
      push_cast
      linarith
    exact_mod_cast this
  exact sub_eq_zero.mp (Int.abs_lt_one_iff.mp apart)

theorem nearestEven_mono : Monotone nearestEven := by
  intro p q le
  rcases (Int.floor_le_floor le).lt_or_eq with apart | same
  · have upper := nearestEven_le_floor_add_one p
    have lower := floor_le_nearestEven q
    omega
  · have fractions : Int.fract p ≤ Int.fract q := by
      unfold Int.fract
      rw [same]
      linarith
    unfold nearestEven
    rw [same]
    split_ifs <;> first | omega | (exfalso; linarith)

theorem nearestEven_neg (q : ℚ) : nearestEven (-q) = -nearestEven q := by
  by_cases whole : Int.fract q = 0
  · obtain ⟨n, rfl⟩ : ∃ n : ℤ, q = n := ⟨⌊q⌋, by linarith [Int.floor_add_fract q]⟩
    rw [nearestEven_intCast, ← Int.cast_neg, nearestEven_intCast]
  · have fraction : Int.fract (-q) = 1 - Int.fract q := Int.fract_neg whole
    have floor : ⌊-q⌋ = -⌊q⌋ - 1 := by
      have parts := Int.floor_add_fract (-q)
      have others := Int.floor_add_fract q
      rw [fraction] at parts
      have cast : (⌊-q⌋ : ℚ) = ((-⌊q⌋ - 1 : ℤ) : ℚ) := by
        push_cast
        linarith
      exact Int.cast_injective cast
    unfold nearestEven
    rw [fraction, floor]
    split_ifs <;> first | omega | (exfalso; linarith)

/-- The exponent of the last place that a double has for a number of some size. -/
def place (q : ℚ) : ℤ :=
  max (Int.log 2 |q| - 52) (-1074)

/-- The nearest multiple of a power of two. -/
def toMultiple (e : ℤ) (q : ℚ) : ℚ :=
  nearestEven (q / 2 ^ e) * 2 ^ e

/-- What a number is rounded to, as long as nothing is too large. -/
def rounded (q : ℚ) : ℚ :=
  toMultiple (place q) q

theorem place_neg (q : ℚ) : place (-q) = place q := by
  rw [place, place, abs_neg]

theorem two_zpow_pos (e : ℤ) : (0 : ℚ) < 2 ^ e :=
  zpow_pos (by norm_num) e

theorem two_zpow_succ (e : ℤ) : (2 : ℚ) ^ (e + 1) = 2 * 2 ^ e := by
  rw [zpow_add_one₀ (by norm_num), mul_comm]

theorem toMultiple_mono (e : ℤ) : Monotone (toMultiple e) := by
  intro p q le
  refine mul_le_mul_of_nonneg_right ?_ (two_zpow_pos e).le
  exact_mod_cast nearestEven_mono (div_le_div_of_nonneg_right le (two_zpow_pos e).le)

theorem toMultiple_neg (e : ℤ) (q : ℚ) : toMultiple e (-q) = -toMultiple e q := by
  rw [toMultiple, toMultiple, neg_div, nearestEven_neg, Int.cast_neg, neg_mul]

/-- Multiples stay where they are. -/
theorem toMultiple_mul (e n : ℤ) : toMultiple e (n * 2 ^ e) = n * 2 ^ e := by
  rw [toMultiple, mul_div_cancel_right₀ _ (two_zpow_pos e).ne', nearestEven_intCast]

theorem toMultiple_zero (e : ℤ) : toMultiple e 0 = 0 := by
  have kept := toMultiple_mul e 0
  rwa [Int.cast_zero, zero_mul] at kept

theorem abs_toMultiple_sub_le (e : ℤ) (q : ℚ) : |toMultiple e q - q| ≤ 2 ^ e / 2 := by
  have positive := two_zpow_pos e
  have parts : toMultiple e q - q = (nearestEven (q / 2 ^ e) - q / 2 ^ e) * 2 ^ e := by
    rw [sub_mul, div_mul_cancel₀ _ positive.ne', toMultiple]
  rw [parts, abs_mul, abs_of_pos positive]
  linarith [mul_le_mul_of_nonneg_right (abs_nearestEven_sub_le (q / 2 ^ e)) positive.le]

/-- A multiple of a power of two is one of every smaller power. -/
theorem exists_multiple {e f : ℤ} (le : f ≤ e) (m : ℤ) :
    ∃ n : ℤ, (m : ℚ) * 2 ^ e = n * 2 ^ f := by
  obtain ⟨k, rfl⟩ := Int.le.dest le
  refine ⟨m * 2 ^ k, ?_⟩
  rw [zpow_add₀ (by norm_num), zpow_natCast]
  push_cast
  ring

theorem toMultiple_two_zpow {e f : ℤ} (le : f ≤ e) : toMultiple f (2 ^ e) = 2 ^ e := by
  obtain ⟨n, same⟩ := exists_multiple le 1
  rw [Int.cast_one, one_mul] at same
  rw [same, toMultiple_mul]

theorem rounded_neg (q : ℚ) : rounded (-q) = -rounded q := by
  rw [rounded, rounded, place_neg, toMultiple_neg]

theorem rounded_zero : rounded 0 = 0 :=
  toMultiple_zero _

/-- Whether a double can hold a number, were there no limit to its size. -/
def IsExact (q : ℚ) : Prop :=
  ∃ (significand : ℤ) (exponent : ℤ), |significand| < 2 ^ 53 ∧ -1074 ≤ exponent ∧
    q = significand * 2 ^ exponent

theorem lt_two_zpow_log (q : ℚ) : |q| < 2 ^ (Int.log 2 |q| + 1) := by
  exact_mod_cast Int.lt_zpow_succ_log_self (b := 2) (by norm_num) |q|

theorem two_zpow_log_le {q : ℚ} (nonzero : q ≠ 0) : (2 : ℚ) ^ Int.log 2 |q| ≤ |q| := by
  exact_mod_cast Int.zpow_log_le_self (b := 2) (by norm_num) (abs_pos.mpr nonzero)

/-- A number is smaller than all that has one digit more than a double for its size. -/
theorem abs_lt_two_zpow_place (q : ℚ) : |q| < 2 ^ (place q + 53) := by
  refine (lt_two_zpow_log q).trans_le (zpow_le_zpow_right₀ (by norm_num) ?_)
  have := le_max_left (Int.log 2 |q| - 52) (-1074)
  unfold place
  omega

theorem log_lt_of_lt_two_zpow {q : ℚ} (nonzero : q ≠ 0) {e : ℤ} (small : |q| < 2 ^ e) :
    Int.log 2 |q| < e := by
  have := (two_zpow_log_le nonzero).trans_lt small
  exact (zpow_lt_zpow_iff_right₀ (by norm_num)).mp this

/-- What a double can hold is a multiple of its own place. -/
theorem IsExact.exists_place {q : ℚ} (exact : IsExact q) : ∃ n : ℤ, q = n * 2 ^ place q := by
  obtain ⟨m, e, bound, least, rfl⟩ := exact
  by_cases zero : (m : ℚ) * 2 ^ e = 0
  · exact ⟨0, by rw [zero, Int.cast_zero, zero_mul]⟩
  · have positive := two_zpow_pos e
    have size : |(m : ℚ) * 2 ^ e| = |m| * 2 ^ e := by
      rw [abs_mul, abs_of_pos positive, Int.cast_abs]
    have small : |(m : ℚ) * 2 ^ e| < 2 ^ (e + 53) := by
      rw [size, zpow_add₀ (by norm_num), mul_comm]
      refine mul_lt_mul_of_pos_left ?_ positive
      exact_mod_cast bound
    have log := log_lt_of_lt_two_zpow zero small
    exact exists_multiple (by unfold place; omega) m

/-- Among the numbers of one size the nearest multiple of the last place is the nearest double. -/
theorem rounded_eq {q : ℚ} {n e : ℤ} (least : -1074 ≤ e) (lower : 2 ^ 52 * 2 ^ e ≤ q)
    (upper : q < 2 ^ 53 * 2 ^ e) (near : |q / 2 ^ e - n| < 1 / 2) : rounded q = n * 2 ^ e := by
  have positive : 0 < q := (mul_pos (by norm_num) (two_zpow_pos e)).trans_le lower
  have log : Int.log 2 |q| = 52 + e := by
    rw [abs_of_pos positive]
    apply le_antisymm
    · have size : q < 2 ^ (52 + e + 1) := by
        convert upper using 1
        rw [show 52 + e + 1 = (53 : ℤ) + e by ring, zpow_add₀ (by norm_num)]
        norm_num
      have below := log_lt_of_lt_two_zpow positive.ne' ((abs_of_pos positive).trans_lt size)
      rw [abs_of_pos positive] at below
      omega
    · have size : ((2 : ℕ) : ℚ) ^ (52 + e) ≤ q := by
        convert lower using 1
        rw [zpow_add₀ (by norm_num)]
        norm_num
      exact (Int.zpow_le_iff_le_log (by norm_num) positive).mp size
  have placed : place q = e := by
    unfold place
    omega
  rw [rounded, placed, toMultiple, nearestEven_eq near]

/-- A double that is not too small has all of its digits. -/
theorem IsExact.exists_normal {c : ℚ} (exact : IsExact c) (normal : 2 ^ (-1022 : ℤ) ≤ c) :
    ∃ n e : ℤ, -1074 ≤ e ∧ 2 ^ 52 ≤ n ∧ n < 2 ^ 53 ∧ c = n * 2 ^ e := by
  have positive : 0 < c := (two_zpow_pos _).trans_le normal
  have size : |c| = c := abs_of_pos positive
  have log : -1022 ≤ Int.log 2 |c| := by
    rw [size]
    exact (Int.zpow_le_iff_le_log (by norm_num) positive).mp (by exact_mod_cast normal)
  have placed : Int.log 2 |c| = 52 + place c := by
    unfold place
    omega
  have lower := two_zpow_log_le positive.ne'
  have upper := abs_lt_two_zpow_place c
  have least : -1074 ≤ place c := le_max_right _ _
  obtain ⟨n, same⟩ := exact.exists_place
  rw [placed, size, zpow_add₀ (by norm_num)] at lower
  rw [size, add_comm, zpow_add₀ (by norm_num)] at upper
  generalize place c = e at *
  subst same
  have scale := two_zpow_pos e
  refine ⟨n, e, least, ?_, ?_, rfl⟩
  · exact_mod_cast le_of_mul_le_mul_right lower scale
  · exact_mod_cast lt_of_mul_lt_mul_right upper scale.le

theorem IsExact.rounded {q : ℚ} (exact : IsExact q) : Binary64.rounded q = q := by
  obtain ⟨n, same⟩ := exact.exists_place
  have kept := toMultiple_mul (place q) n
  rwa [← same] at kept

theorem IsExact.neg {q : ℚ} (exact : IsExact q) : IsExact (-q) := by
  obtain ⟨m, e, bound, least, rfl⟩ := exact
  exact ⟨-m, e, by rwa [abs_neg], least, by rw [Int.cast_neg, neg_mul]⟩

theorem isExact_zero : IsExact 0 :=
  ⟨0, 0, by norm_num, by norm_num, by simp⟩

theorem isExact_two_zpow {e : ℤ} (least : -1074 ≤ e) : IsExact (2 ^ e) :=
  ⟨1, e, by norm_num, least, by simp⟩

theorem IsExact.two_zpow_mul {q : ℚ} {e : ℤ} (exact : IsExact q) (nonneg : 0 ≤ e) :
    IsExact (2 ^ e * q) := by
  obtain ⟨m, f, bound, least, rfl⟩ := exact
  refine ⟨m, f + e, bound, by omega, ?_⟩
  rw [zpow_add₀ (by norm_num)]
  ring

theorem isExact_intCast {n : ℤ} (small : |n| < 2 ^ 53) : IsExact n :=
  ⟨n, 0, small, by norm_num, by simp⟩

theorem place_mono {p q : ℚ} (nonzero : p ≠ 0) (le : |p| ≤ |q|) : place p ≤ place q := by
  have log := Int.log_mono_right (b := 2) (abs_pos.mpr nonzero) le
  unfold place
  omega

theorem rounded_nonneg {q : ℚ} (nonneg : 0 ≤ q) : 0 ≤ rounded q := by
  have bound := toMultiple_mono (place q) nonneg
  rwa [toMultiple_zero] at bound

/-- Among numbers of one size the order is kept as for multiples of their place. A larger size
begins with a power of two, which is a multiple of both places. -/
theorem rounded_le_of_nonneg {p q : ℚ} (nonneg : 0 ≤ p) (le : p ≤ q) : rounded p ≤ rounded q := by
  rcases nonneg.eq_or_lt with rfl | positive
  · rw [rounded_zero]
    exact rounded_nonneg le
  have sizes : |p| ≤ |q| := abs_le_abs_of_nonneg nonneg le
  rcases (place_mono positive.ne' sizes).eq_or_lt with same | apart
  · rw [rounded, rounded, ← same]
    exact toMultiple_mono (place p) le
  · have normal : place q = Int.log 2 |q| - 52 := by
      have := le_max_right (Int.log 2 |p| - 52) (-1074)
      unfold place at apart ⊢
      omega
    have larger : (2 : ℚ) ^ Int.log 2 |q| ≤ q := by
      have := two_zpow_log_le (positive.trans_le le).ne'
      rwa [abs_of_pos (positive.trans_le le)] at this ⊢
    have smaller : p ≤ 2 ^ Int.log 2 |q| := by
      have below := (abs_lt_two_zpow_place p).le
      rw [abs_of_pos positive] at below
      exact below.trans (zpow_le_zpow_right₀ (by norm_num) (by omega))
    calc rounded p ≤ toMultiple (place p) (2 ^ Int.log 2 |q|) := toMultiple_mono _ smaller
      _ = 2 ^ Int.log 2 |q| := toMultiple_two_zpow (by omega)
      _ = toMultiple (place q) (2 ^ Int.log 2 |q|) := (toMultiple_two_zpow (by omega)).symm
      _ ≤ rounded q := toMultiple_mono _ larger

theorem rounded_mono : Monotone rounded := by
  intro p q le
  rcases le_total 0 p with nonneg | nonpos
  · exact rounded_le_of_nonneg nonneg le
  · rcases le_total 0 q with nonneg | below
    · have first := rounded_nonneg (neg_nonneg.mpr nonpos)
      have second := rounded_nonneg nonneg
      rw [rounded_neg] at first
      linarith
    · have opposite := rounded_le_of_nonneg (neg_nonneg.mpr below) (neg_le_neg le)
      rw [rounded_neg, rounded_neg] at opposite
      linarith

/-- What is at most as large as a number that a double holds stays so. -/
theorem abs_rounded_le {q bound : ℚ} (exact : IsExact bound) (within : |q| ≤ bound) :
    |rounded q| ≤ bound := by
  obtain ⟨lower, upper⟩ := abs_le.mp within
  have above := rounded_mono upper
  have below := rounded_mono lower
  rw [exact.rounded] at above
  rw [exact.neg.rounded] at below
  exact abs_le.mpr ⟨below, above⟩

/-- What is at least as large stays so too. -/
theorem le_abs_rounded {q bound : ℚ} (exact : IsExact bound) (beyond : bound ≤ |q|) :
    bound ≤ |rounded q| := by
  rcases le_abs.mp beyond with above | below
  · have le := rounded_mono above
    rw [exact.rounded] at le
    exact le.trans (le_abs_self _)
  · have le := rounded_mono below
    rw [exact.rounded, rounded_neg] at le
    exact le.trans (neg_le_abs _)

/-- The error is at most half of the last place. -/
theorem abs_rounded_sub_le (q : ℚ) : |rounded q - q| ≤ 2 ^ place q / 2 :=
  abs_toMultiple_sub_le (place q) q

/-- The error is at most half of the last place that there is at some size. -/
theorem abs_rounded_sub_le_two_zpow {q : ℚ} {e : ℤ} (least : -1022 ≤ e) (small : |q| ≤ 2 ^ e) :
    |rounded q - q| ≤ 2 ^ e / 2 ^ 53 := by
  by_cases zero : q = 0
  · rw [zero, rounded_zero, sub_zero, abs_zero]
    exact (div_pos (two_zpow_pos e) (by norm_num)).le
  · have log : Int.log 2 |q| ≤ e := by
      have := (two_zpow_log_le zero).trans small
      exact (zpow_le_zpow_iff_right₀ (by norm_num)).mp this
    have placed : (2 : ℚ) ^ place q ≤ 2 ^ (e - 52) :=
      zpow_le_zpow_right₀ (by norm_num) (by unfold place; omega)
    have power : (2 : ℚ) ^ (e - 52) = 2 ^ e / 2 ^ 52 := by
      rw [zpow_sub₀ (by norm_num)]
      norm_num
    have halves : (2 : ℚ) ^ e / 2 ^ 52 / 2 = 2 ^ e / 2 ^ 53 := by
      rw [div_div, ← pow_succ]
    have error := abs_rounded_sub_le q
    linarith

/-- Relatively, the error is at most half of the last of 53 places, as long as there are so many. -/
theorem abs_rounded_sub_le_mul {q : ℚ} (normal : 2 ^ (-1022 : ℤ) ≤ |q|) :
    |rounded q - q| ≤ |q| / 2 ^ 53 := by
  have nonzero : q ≠ 0 := abs_pos.mp ((two_zpow_pos _).trans_le normal)
  have log : -1022 ≤ Int.log 2 |q| := by
    have := (zpow_lt_zpow_iff_right₀ (by norm_num)).mp (normal.trans_lt (lt_two_zpow_log q))
    omega
  have placed : place q = Int.log 2 |q| - 52 := by
    unfold place
    omega
  refine (abs_rounded_sub_le q).trans ?_
  have power : (2 : ℚ) ^ Int.log 2 |q| = 2 ^ place q * 2 ^ 52 := by
    rw [placed, ← zpow_natCast, ← zpow_add₀ (by norm_num)]
    congr 1
    norm_num
  have size := two_zpow_log_le nonzero
  rw [power] at size
  rw [div_le_div_iff₀ (by norm_num) (by norm_num)]
  linarith

/-- The same holds of multiples of the last of all places, as those that are too small for it are
held exactly. -/
theorem abs_rounded_sub_le_mul_of_multiple {q : ℚ} {n : ℤ} (same : q = n * 2 ^ (-1074 : ℤ)) :
    |rounded q - q| ≤ |q| / 2 ^ 53 := by
  by_cases normal : 2 ^ (-1022 : ℤ) ≤ |q|
  · exact abs_rounded_sub_le_mul normal
  · have held : IsExact q := by
      refine ⟨n, -1074, ?_, le_rfl, same⟩
      rw [same, abs_mul, abs_of_pos (two_zpow_pos _), not_le, ← lt_div_iff₀ (two_zpow_pos _),
        ← zpow_sub₀ (by norm_num)] at normal
      have power : (2 : ℚ) ^ (-1022 - -1074 : ℤ) = 2 ^ 52 := by norm_num
      rw [power] at normal
      have small : |n| < 2 ^ 52 := by exact_mod_cast normal
      omega
    rw [held.rounded, sub_self, abs_zero]
    positivity

/-- In particular it holds of multiples of what a double holds. -/
theorem IsExact.abs_rounded_mul_sub_le {q : ℚ} (exact : IsExact q) (count : ℕ) :
    |Binary64.rounded (count * q) - count * q| ≤ |count * q| / 2 ^ 53 := by
  obtain ⟨m, e, -, least, rfl⟩ := exact
  obtain ⟨n, same⟩ := exists_multiple least (count * m)
  rw [Int.cast_mul, Int.cast_natCast, mul_assoc] at same
  exact abs_rounded_sub_le_mul_of_multiple same

/-- Rounding never doubles, of very small numbers apart. -/
theorem rounded_le_twice {q : ℚ} (nonneg : 0 ≤ q) : rounded q ≤ 2 * q + 1 / 4 := by
  rcases le_total q (2 ^ (-2 : ℤ)) with small | normal
  · have bound := (abs_le.mp (abs_rounded_le (isExact_two_zpow (e := -2) (by norm_num))
      ((abs_of_nonneg nonneg).trans_le small))).2
    norm_num at bound
    linarith
  · have least : (2 : ℚ) ^ (-1022 : ℤ) ≤ 2 ^ (-2 : ℤ) :=
      zpow_le_zpow_right₀ (by norm_num) (by norm_num)
    have error := abs_rounded_sub_le_mul ((least.trans normal).trans_eq (abs_of_nonneg nonneg).symm)
    rw [abs_of_nonneg nonneg, abs_le] at error
    have part : q / 2 ^ 53 ≤ q := div_le_self nonneg (by norm_num)
    linarith

/-- The power of two at which the numbers of a double end. -/
def limit : ℚ :=
  2 ^ (1024 : ℤ)

theorem limit_pos : 0 < limit :=
  two_zpow_pos 1024

/-- What a double shows of a number: what the number is rounded to, or, of what is too large, the
limit. -/
def saturated (q : ℚ) : ℚ :=
  max (-limit) (min (rounded q) limit)

theorem saturated_mono : Monotone saturated := fun _ _ le =>
  max_le_max_left _ (min_le_min_right _ (rounded_mono le))

theorem saturated_neg (q : ℚ) : saturated (-q) = -saturated q := by
  have positive := limit_pos
  rw [saturated, saturated, rounded_neg, max_def, max_def, min_def, min_def]
  split_ifs <;> linarith

theorem saturated_of_abs_lt {q : ℚ} (small : |rounded q| < limit) : saturated q = rounded q := by
  obtain ⟨lower, upper⟩ := abs_lt.mp small
  rw [saturated, min_eq_left upper.le, max_eq_right lower.le]

theorem IsExact.saturated {q : ℚ} (exact : IsExact q) (small : |q| < limit) :
    Binary64.saturated q = q := by
  have kept := exact.rounded
  rw [saturated_of_abs_lt (by rwa [kept]), kept]

theorem abs_saturated_le {q bound : ℚ} (exact : IsExact bound) (within : |q| ≤ bound)
    (small : bound < limit) : |Binary64.saturated q| ≤ bound := by
  have rounds := abs_rounded_le exact within
  rwa [saturated_of_abs_lt (rounds.trans_lt small)]

end Cupping.Binary64
