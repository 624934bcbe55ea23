import Cupping.Proofs.Binary64.Shifting

/-!
Sums, differences, products and quotients of doubles are the exact ones, rounded. They keep the
order of one operand as long as the other one is finite, and positive where it scales.
-/

namespace Cupping.Binary64

open Float.Model (UnpackedFloat Format totalExponent)
open Float.Model.UnpackedFloat

/-- Whether parts, once they are packed, stand for a number. -/
structure Shows (parts : UnpackedFloat) (v : ℚ) : Prop where
  number : (Float.Model.pack parts).unpack.isNaN = false
  worth : worth (Float.Model.pack parts).unpack = v

variable {first second parts : UnpackedFloat} {sign : Sign} {q : ℚ} {m n : ℕ} {e f : ℤ}

theorem shows_worth (canonical : IsCanonical parts) (number : parts.isNaN = false) :
    Shows parts (worth parts) := by
  constructor
  · rwa [unpack_pack_of_isCanonical canonical]
  · rw [unpack_pack_of_isCanonical canonical]

theorem saturated_zero : saturated 0 = 0 :=
  isExact_zero.saturated (abs_zero.trans_lt limit_pos)

theorem saturated_unit_mul (sign : Sign) (q : ℚ) :
    saturated (unit sign * q) = unit sign * saturated q := by
  cases sign with
  | negative => simpa [unit] using saturated_neg q
  | positive => simp [unit]

theorem unit_mul_self (sign : Sign) : (unit sign : ℚ) * unit sign = 1 := by
  cases sign <;> norm_num [unit]

theorem saturated_of_nonneg (nonneg : 0 ≤ q) : saturated q = min (rounded q) limit := by
  have least : -limit ≤ min (rounded q) limit :=
    (neg_nonpos.mpr limit_pos.le).trans (le_min (rounded_nonneg nonneg) limit_pos.le)
  rw [saturated, max_eq_right least]

theorem IsRounded.shows (rounds : IsRounded sign q parts) (nonneg : 0 ≤ q) :
    Shows parts (saturated (unit sign * q)) := by
  rw [saturated_unit_mul, saturated_of_nonneg nonneg]
  cases rounds with
  | zero nothing =>
    rw [nothing, min_eq_left limit_pos.le, mul_zero]
    exact shows_worth (.zero sign) rfl
  | @finite m e positive fits same =>
    rw [← same]
    constructor
    · rw [unpack_pack_finite sign positive fits]
      split <;> rfl
    · rw [unpack_pack_finite sign positive fits]
      by_cases most : 971 < e
      · have large := not_lt.mp (mt fits.lt_limit_iff.mp (not_le.mpr most))
        rw [if_pos most, min_eq_right large]
        rfl
      · have small := fits.lt_limit_iff.mpr (not_lt.mp most)
        rw [if_neg most, min_eq_left small.le]
        rfl

/-! The operations on parts. -/

theorem decreaseExponent_eq (m : ℕ) (e t : ℤ) :
    decreaseExponent m e t = (m * 2 ^ (e - t).toNat, e - (e - t).toNat) := by
  rw [decreaseExponent, Nat.shiftLeft_eq]

theorem mul_two_zpow (m k : ℕ) (e : ℤ) :
    ((m * 2 ^ k : ℕ) : ℚ) * 2 ^ (e - k) = m * 2 ^ e := by
  rw [Nat.cast_mul, Nat.cast_pow, Nat.cast_ofNat, mul_assoc, ← zpow_natCast,
    ← zpow_add₀ (by norm_num), add_sub_cancel]

/-- A significand takes more digits for a smaller exponent. -/
theorem aligned {g : ℤ} (le : g ≤ e) (m : ℕ) :
    ((m * 2 ^ (e - g).toNat : ℕ) : ℚ) * 2 ^ g = m * 2 ^ e := by
  have shifted : e - (e - g).toNat = g := by omega
  have same := mul_two_zpow m (e - g).toNat e
  rwa [shifted] at same

/-- A number that is given exactly is rounded. -/
theorem isRounded_round (sign : Sign) (positive : 0 < m) (e : ℤ) :
    IsRounded sign (m * 2 ^ e) (UnpackedFloat.round .binary64 sign m e) := by
  have long : 52 ≤ (m * 2 ^ (e - target m e).toNat).log2 ∨ e - (e - target m e).toNat ≤ -1074 := by
    by_cases least : target m e = -1074
    · right
      omega
    · left
      rw [Nat.le_log2 (by positivity)]
      have enough : 52 ≤ m.log2 + (e - target m e).toNat := by
        unfold target at least ⊢
        omega
      calc 2 ^ 52 ≤ 2 ^ (m.log2 + (e - target m e).toNat) :=
            Nat.pow_le_pow_right (by norm_num) enough
        _ = 2 ^ m.log2 * 2 ^ (e - target m e).toNat := Nat.pow_add ..
        _ ≤ m * 2 ^ (e - target m e).toNat :=
          Nat.mul_le_mul_right _ (Nat.log2_self_le positive.ne')
  have rounds := isRounded_roundWithAccuracy sign (describes_exact _) long
  rw [mul_two_zpow] at rounds
  simpa only [UnpackedFloat.round, targetExponent_eq, decreaseExponent_eq] using rounds

/-- Signed significands of one exponent. -/
theorem shows_normalize (n e : ℤ) (sign : Sign) :
    Shows (UnpackedFloat.normalize .binary64 n e sign) (saturated (n * 2 ^ e)) := by
  rcases lt_trichotomy n 0 with negative | rfl | positive
  · have size : ((-n).toNat : ℚ) = -n := by
      have := Int.toNat_of_nonneg (neg_nonneg.mpr negative.le)
      exact_mod_cast congrArg (Int.cast (R := ℚ)) this
    have rounds := (isRounded_round .negative (m := (-n).toNat) (by omega) e).shows
      (mul_nonneg (Nat.cast_nonneg _) (two_zpow_pos e).le)
    rw [size] at rounds
    simpa [UnpackedFloat.normalize, compare_lt_iff_lt.mpr negative, unit] using rounds
  · rw [Int.cast_zero, zero_mul, saturated_zero]
    exact shows_worth (.zero sign) rfl
  · have size : (n.toNat : ℚ) = n := by
      exact_mod_cast congrArg (Int.cast (R := ℚ)) (Int.toNat_of_nonneg positive.le)
    have rounds := (isRounded_round .positive (m := n.toNat) (by omega) e).shows
      (mul_nonneg (Nat.cast_nonneg _) (two_zpow_pos e).le)
    rw [size] at rounds
    simpa [UnpackedFloat.normalize, compare_gt_iff_gt.mpr positive, unit] using rounds

theorem worth_neg (parts : UnpackedFloat) : worth parts.neg = -worth parts := by
  cases parts with
  | infinity sign => simp [UnpackedFloat.neg, worth, unit_neg]
  | notANumber => simp [UnpackedFloat.neg, worth]
  | zero sign => simp [UnpackedFloat.neg, worth]
  | finite sign m e positive => simp [UnpackedFloat.neg, worth, unit_neg]

theorem IsCanonical.neg (canonical : IsCanonical parts) : IsCanonical parts.neg := by
  cases canonical with
  | infinity sign => exact .infinity _
  | notANumber => exact .notANumber
  | zero sign => exact .zero _
  | finite sign positive fits most => exact .finite _ positive fits most

/-- Parts that are finite are zero or have a significand. -/
theorem saturated_worth (canonical : IsCanonical parts) (finite : parts.isFinite = true) :
    saturated (worth parts) = worth parts := by
  rw [isFinite_eq, Bool.and_eq_true, Bool.not_eq_true', Bool.not_eq_true'] at finite
  exact (isExact_worth canonical finite.2).saturated
    ((abs_worth_lt_limit_iff canonical).mpr finite.2)

/-- A sum is the exact one, rounded. -/
theorem shows_add (canonical : IsCanonical first) (other : IsCanonical second)
    (finite : first.isFinite = true) (bounded : second.isFinite = true) :
    Shows (add .binary64 first second) (saturated (worth first + worth second)) := by
  have kept := saturated_worth canonical finite
  have same := saturated_worth other bounded
  cases canonical with
  | infinity s => cases finite
  | notANumber => cases finite
  | zero s =>
    cases other with
    | infinity t => cases bounded
    | notANumber => cases bounded
    | zero t =>
      have nothing : saturated (worth (.zero s) + worth (.zero t)) = 0 := by
        rw [worth, worth, add_zero, saturated_zero]
      rw [nothing]
      cases s <;> cases t <;> exact shows_worth (.zero _) rfl
    | finite t positive fits most =>
      rw [show worth (.zero s) = 0 from rfl, zero_add, same]
      exact shows_worth (.finite t positive fits most) rfl
  | @finite s m e positive fits most =>
    cases other with
    | infinity t => cases bounded
    | notANumber => cases bounded
    | zero t =>
      rw [show worth (.zero t) = 0 from rfl, add_zero, kept]
      exact shows_worth (.finite s positive fits most) rfl
    | @finite t n f present suits least =>
      have whole : ((s.apply (m * 2 ^ (e - min e f).toNat : ℕ) +
          t.apply (n * 2 ^ (f - min e f).toNat : ℕ) : ℤ) : ℚ) * 2 ^ min e f =
            worth (.finite s m e positive) + worth (.finite t n f present) := by
        rw [apply_eq, apply_eq, Int.cast_add, Int.cast_mul, Int.cast_mul, Int.cast_natCast,
          Int.cast_natCast, add_mul, mul_assoc, mul_assoc, aligned (min_le_left e f),
          aligned (min_le_right e f), worth, worth]
      rw [← whole]
      simpa only [add, decreaseExponent_eq] using shows_normalize _ (min e f) .positive

/-- Subtraction adds the opposite. -/
theorem sub_eq_add_opposite (first second : UnpackedFloat) :
    sub .binary64 first second = add .binary64 first second.neg := by
  cases first with
  | notANumber => rfl
  | infinity s => cases second <;> rfl
  | zero s => cases second <;> rfl
  | finite s m e positive =>
    cases second with
    | notANumber => rfl
    | infinity t => rfl
    | zero t => rfl
    | finite t n f present =>
      simp only [sub, add, UnpackedFloat.neg, apply_eq, unit_neg, neg_mul, Int.sub_eq_add_neg]

theorem isFinite_neg (parts : UnpackedFloat) : parts.neg.isFinite = parts.isFinite := by
  cases parts <;> rfl

theorem shows_sub (canonical : IsCanonical first) (other : IsCanonical second)
    (finite : first.isFinite = true) (bounded : second.isFinite = true) :
    Shows (sub .binary64 first second) (saturated (worth first - worth second)) := by
  rw [sub_eq_add_opposite, sub_eq_add_neg, ← worth_neg]
  exact shows_add canonical other.neg finite (by rwa [isFinite_neg])

/-- A product has digits enough, or the least exponent. -/
theorem long_mul (fits : Fits m e) (suits : Fits n f) (positive : 0 < m) (present : 0 < n) :
    52 ≤ (m * n).log2 ∨ e + f ≤ -1074 := by
  rw [Nat.le_log2 (Nat.mul_pos positive present).ne']
  rcases fits.normal with full | least
  · exact .inl (full.trans (Nat.le_mul_of_pos_right m present))
  · rcases suits.normal with full | smallest
    · exact .inl (full.trans (Nat.le_mul_of_pos_left n positive))
    · exact .inr (by omega)

/-- A product is the exact one, rounded. -/
theorem shows_mul (canonical : IsCanonical first) (other : IsCanonical second)
    (finite : first.isFinite = true) (bounded : second.isFinite = true) :
    Shows (mul .binary64 first second) (saturated (worth first * worth second)) := by
  have nothing : ∀ sign : Sign, Shows (.zero sign) (saturated 0) := fun sign => by
    rw [saturated_zero]
    exact shows_worth (.zero sign) rfl
  cases canonical with
  | infinity s => cases finite
  | notANumber => cases finite
  | zero s =>
    rw [show worth (.zero s) = 0 from rfl, zero_mul]
    cases other with
    | infinity t => cases bounded
    | notANumber => cases bounded
    | zero t => exact nothing _
    | finite t positive fits most => exact nothing _
  | @finite s m e positive fits most =>
    cases other with
    | infinity t => cases bounded
    | notANumber => cases bounded
    | zero t =>
      rw [show worth (.zero t) = 0 from rfl, mul_zero]
      exact nothing _
    | @finite t n f present suits least =>
      have long := long_mul fits suits positive present
      have whole : unit (s * t) * (((m * n : ℕ) : ℚ) * 2 ^ (e + f)) =
          worth (.finite s m e positive) * worth (.finite t n f present) := by
        rw [worth, worth, unit_mul, zpow_add₀ (by norm_num)]
        push_cast
        ring
      rw [← whole]
      exact (isRounded_roundWithAccuracy (s * t) (describes_exact (m * n)) long).shows
        (mul_nonneg (Nat.cast_nonneg _) (two_zpow_pos _).le)

/-- A quotient has digits enough, or the least exponent. -/
theorem long_div (positive : 0 < m) (present : 0 < n) (e f t : ℤ)
    (aimed : t = min (e - f) (max (m.log2 + e - (n.log2 + f) - 53) (-1074))) :
    52 ≤ (m * 2 ^ (e - f - t).toNat / n).log2 ∨ t ≤ -1074 := by
  by_cases least : t ≤ -1074
  · exact .inr least
  left
  have enough : n.log2 + 53 ≤ m.log2 + (e - f - t).toNat := by omega
  have lower : 2 ^ 52 ≤ m * 2 ^ (e - f - t).toNat / n := by
    rw [Nat.le_div_iff_mul_le present]
    calc 2 ^ 52 * n ≤ 2 ^ 52 * 2 ^ (n.log2 + 1) := Nat.mul_le_mul_left _ Nat.lt_log2_self.le
      _ = 2 ^ (n.log2 + 53) := by rw [← Nat.pow_add]; congr 1; omega
      _ ≤ 2 ^ (m.log2 + (e - f - t).toNat) := Nat.pow_le_pow_right (by norm_num) enough
      _ = 2 ^ m.log2 * 2 ^ (e - f - t).toNat := Nat.pow_add ..
      _ ≤ m * 2 ^ (e - f - t).toNat := Nat.mul_le_mul_right _ (Nat.log2_self_le positive.ne')
  exact (Nat.le_log2 (by omega)).mpr lower

/-- The exponent of a quotient before it is rounded. -/
def quotientExponent (m : ℕ) (e : ℤ) (n : ℕ) (f : ℤ) : ℤ :=
  min (e - f) (max (m.log2 + e - (n.log2 + f) - 53) (-1074))

theorem divCore_eq (m : ℕ) (e : ℤ) (n : ℕ) (f : ℤ) :
    divCore .binary64 m e n f =
      (m * 2 ^ (e - f - quotientExponent m e n f).toNat / n, quotientExponent m e n f,
        accuracyOfFraction (m * 2 ^ (e - f - quotientExponent m e n f).toNat % n) n) := by
  have same : min (e - f) (Format.targetExponent .binary64
      (totalExponent m e - totalExponent n f)) = quotientExponent m e n f := by
    change min (e - f) (max (((m.log2 : ℤ) + 1 + e) - (n.log2 + 1 + f) - 53) (-1074)) = _
    unfold quotientExponent
    omega
  simp only [divCore, same, Nat.shiftLeft_eq]

/-- A quotient is the exact one, rounded. -/
theorem shows_div (canonical : IsCanonical first) (other : IsCanonical second)
    (finite : first.isFinite = true) (bounded : second.isFinite = true)
    (nonzero : worth second ≠ 0) :
    Shows (div .binary64 first second) (saturated (worth first / worth second)) := by
  cases other with
  | infinity t => cases bounded
  | notANumber => cases bounded
  | zero t => exact absurd rfl nonzero
  | @finite t n f present suits least =>
    cases canonical with
    | infinity s => cases finite
    | notANumber => cases finite
    | zero s =>
      rw [show worth (.zero s) = 0 from rfl, zero_div, saturated_zero]
      exact shows_worth (.zero (s / t)) rfl
    | @finite s m e positive fits most =>
      have long := long_div positive present e f _ rfl
      have size : (0 : ℚ) < n := Nat.cast_pos.mpr present
      have count : e - f - (e - f - quotientExponent m e n f).toNat = quotientExponent m e n f := by
        unfold quotientExponent
        omega
      have scaled := mul_two_zpow m (e - f - quotientExponent m e n f).toNat (e - f)
      rw [count] at scaled
      have sign : (unit s : ℚ) / unit t = unit (s / t) := by
        rw [unit_div, Int.cast_mul, div_eq_iff (left_ne_zero_of_mul_eq_one (unit_mul_self t)),
          mul_assoc, unit_mul_self, mul_one]
      have whole : unit (s / t) *
          (((m * 2 ^ (e - f - quotientExponent m e n f).toNat : ℕ) : ℚ) / n *
            2 ^ quotientExponent m e n f) =
              worth (.finite s m e positive) / worth (.finite t n f present) := by
        rw [worth, worth, mul_div_mul_comm, sign, div_mul_eq_mul_div, scaled,
          zpow_sub₀ (by norm_num)]
        congr 1
        field_simp
      rw [← whole]
      simp only [div, divCore_eq]
      exact (isRounded_roundWithAccuracy (s / t) (describes_fraction _ present) long).shows
        (mul_nonneg (div_nonneg (Nat.cast_nonneg _) size.le) (two_zpow_pos _).le)

/-! The operations on doubles. -/

/-- Whether a double is what a number is rounded to. -/
structure Rounds (q : ℚ) (x : Float) : Prop where
  number : x.isNaN = false
  value : value x = saturated q

variable {x y : Float}

theorem rounds_add (finite : x.isFinite = true) (bounded : y.isFinite = true) :
    Rounds (value x + value y) (x + y) :=
  have shows := shows_add (isCanonical x) (isCanonical y) finite bounded
  ⟨shows.number, shows.worth⟩

theorem rounds_sub (finite : x.isFinite = true) (bounded : y.isFinite = true) :
    Rounds (value x - value y) (x - y) :=
  have shows := shows_sub (isCanonical x) (isCanonical y) finite bounded
  ⟨shows.number, shows.worth⟩

theorem rounds_mul (finite : x.isFinite = true) (bounded : y.isFinite = true) :
    Rounds (value x * value y) (x * y) :=
  have shows := shows_mul (isCanonical x) (isCanonical y) finite bounded
  ⟨shows.number, shows.worth⟩

theorem rounds_div (finite : x.isFinite = true) (bounded : y.isFinite = true)
    (nonzero : value y ≠ 0) : Rounds (value x / value y) (x / y) :=
  have shows := shows_div (isCanonical x) (isCanonical y) finite bounded nonzero
  ⟨shows.number, shows.worth⟩

variable {q bound : ℚ}

/-- What a double holds within the limit is kept as it is. -/
theorem Rounds.value_eq (rounds : Rounds q x) (exact : IsExact q) (small : |q| < limit) :
    Binary64.value x = q := by
  rw [rounds.value, exact.saturated small]

theorem Rounds.value_eq_rounded (rounds : Rounds q x) (exact : IsExact bound)
    (small : bound < limit) (within : |q| ≤ bound) : Binary64.value x = rounded q := by
  rw [rounds.value, saturated_of_abs_lt ((abs_rounded_le exact within).trans_lt small)]

theorem Rounds.abs_le (rounds : Rounds q x) (exact : IsExact bound) (small : bound < limit)
    (within : |q| ≤ bound) : |Binary64.value x| ≤ bound := by
  rw [rounds.value]
  exact abs_saturated_le exact within small

theorem Rounds.isFinite (rounds : Rounds q x) (exact : IsExact bound) (small : bound < limit)
    (within : |q| ≤ bound) : x.isFinite = true :=
  isFinite_iff.mpr ⟨rounds.number, (rounds.abs_le exact small within).trans_lt small⟩

theorem Rounds.exact (rounds : Rounds q x) (exact : IsExact q) (small : |q| < limit) :
    x.isFinite = true ∧ Binary64.value x = q := by
  have kept := rounds.value_eq exact small
  exact ⟨isFinite_iff.mpr ⟨rounds.number, by rwa [kept]⟩, kept⟩

theorem two_zpow_lt_limit {e : ℤ} (below : e < 1024) : (2 : ℚ) ^ e < limit :=
  zpow_lt_zpow_right₀ (by norm_num) below

/-- Of what is within the limit the error is as small as the last place. -/
theorem Rounds.error {e : ℤ} (rounds : Rounds q x) (least : -1022 ≤ e) (most : e < 1024)
    (within : |q| ≤ 2 ^ e) : x.isFinite = true ∧ |Binary64.value x - q| ≤ 2 ^ e / 2 ^ 53 := by
  have exact := isExact_two_zpow (show -1074 ≤ e by omega)
  have small := two_zpow_lt_limit most
  refine ⟨rounds.isFinite exact small within, ?_⟩
  rw [rounds.value_eq_rounded exact small within]
  exact abs_rounded_sub_le_two_zpow least within

theorem isExact_natCast {n : ℕ} (small : n < 2 ^ 53) : IsExact n := by
  have whole : IsExact (n : ℤ) := isExact_intCast (by rw [Nat.abs_cast]; exact_mod_cast small)
  rwa [Int.cast_natCast] at whole

theorem natCast_lt_limit {n : ℕ} (small : n < 2 ^ 53) : (n : ℚ) < limit := by
  have below : (n : ℚ) < 2 ^ (53 : ℤ) := by exact_mod_cast small
  exact below.trans (two_zpow_lt_limit (by norm_num))

theorem value_one : value (Float.ofBits 0x3FF0000000000000) = 1 := by
  have parts : value (Float.ofBits 0x3FF0000000000000) =
      worth (.finite .positive (2 ^ 52) (-52) (by decide)) := rfl
  rw [parts, worth_positive, zpow_neg]
  norm_num

theorem ofNat_eq {n : ℕ} (small : n < 2 ^ 53) :
    Float.ofNat n = n.toUInt64.toFloat * Float.ofBits 0x3FF0000000000000 := by
  change Float.ofScientific n false 0 = _
  rw [Float.ofScientific, dif_pos ⟨small, by norm_num⟩]
  rfl

/-- Whole numbers with at most as many digits as a significand are held exactly. -/
theorem rounds_ofNat {n : ℕ} (small : n < 2 ^ 53) : Rounds n (Float.ofNat n) := by
  have word : n.toUInt64.toNat = n := by
    have size : n < UInt64.size := small.trans (by decide)
    exact UInt64.toNat_ofNat_of_lt size
  have shows := shows_normalize n.toUInt64.toNat 0 .positive
  rw [zpow_zero, mul_one, Int.cast_natCast] at shows
  have converted : Rounds n.toUInt64.toNat n.toUInt64.toFloat := ⟨shows.number, shows.worth⟩
  rw [word] at converted
  have kept := converted.value_eq (isExact_natCast small)
    (by rw [Nat.abs_cast]; exact natCast_lt_limit small)
  have product := rounds_mul (converted.isFinite (isExact_natCast small) (natCast_lt_limit small)
    (Nat.abs_cast n).le) (show (Float.ofBits 0x3FF0000000000000).isFinite = true by decide)
  rw [kept, value_one, mul_one] at product
  rwa [ofNat_eq small]

/-- Numbers that are whole and not too large are held as they are. -/
theorem exact_ofNat {n : ℕ} (small : n < 2 ^ 53) :
    (Float.ofNat n).isFinite = true ∧ value (Float.ofNat n) = n := by
  refine (rounds_ofNat small).exact (isExact_natCast small) ?_
  rw [Nat.abs_cast]
  exact natCast_lt_limit small

theorem value_neg (x : Float) : value (-x) = -value x := by
  have shows : worth (Float.Model.pack x.toModel.unpack.neg).unpack = -worth x.toModel.unpack := by
    rw [unpack_pack_of_isCanonical (isCanonical x).neg, worth_neg]
  exact shows

theorem IsCanonical.abs (canonical : IsCanonical parts) : IsCanonical parts.abs := by
  cases canonical with
  | infinity sign => exact .infinity _
  | notANumber => exact .notANumber
  | zero sign => exact .zero _
  | finite sign positive fits most => exact .finite _ positive fits most

theorem worth_abs (parts : UnpackedFloat) : worth parts.abs = |worth parts| := by
  cases parts with
  | infinity sign => rw [abs_worth_infinity, UnpackedFloat.abs, worth_infinity_positive]
  | notANumber => exact abs_zero.symm
  | zero sign => exact abs_zero.symm
  | finite sign m e positive =>
    rw [abs_worth_finite, UnpackedFloat.abs, worth_positive]

theorem value_abs (x : Float) : value x.abs = |value x| := by
  have shows : worth (Float.Model.pack x.toModel.unpack.abs).unpack = |worth x.toModel.unpack| := by
    rw [unpack_pack_of_isCanonical (isCanonical x).abs, worth_abs]
  exact shows

theorem isNaN_abs (x : Float) : x.abs.isNaN = x.isNaN := by
  have shows : (Float.Model.pack x.toModel.unpack.abs).unpack.isNaN = x.toModel.unpack.isNaN := by
    rw [unpack_pack_of_isCanonical (isCanonical x).abs]
    cases x.toModel.unpack <;> rfl
  exact shows

theorem isNaN_neg (x : Float) : (-x).isNaN = x.isNaN := by
  have shows : (Float.Model.pack x.toModel.unpack.neg).unpack.isNaN = x.toModel.unpack.isNaN := by
    rw [unpack_pack_of_isCanonical (isCanonical x).neg]
    cases x.toModel.unpack <;> rfl
  exact shows

end Cupping.Binary64
