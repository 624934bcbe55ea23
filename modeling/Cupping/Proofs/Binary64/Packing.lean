import Mathlib

/-!
The bit patterns of doubles and their parts. The parts of a double are of a fixed shape, and parts
of that shape come back from their pattern; with too large an exponent they come back infinite.
-/

namespace Cupping.Binary64

open Float.Model (UnpackedFloat Format)
open Float.Model.UnpackedFloat

/-- Whether a significand and an exponent are what rounding comes to: the significand has all of its
53 digits, unless the exponent is the least one. -/
structure Fits (m : ℕ) (e : ℤ) : Prop where
  short : m < 2 ^ 53
  least : -1074 ≤ e
  normal : 2 ^ 52 ≤ m ∨ e = -1074

/-- The parts that a double can have. -/
inductive IsCanonical : UnpackedFloat → Prop where
  | infinity (sign : Sign) : IsCanonical (.infinity sign)
  | notANumber : IsCanonical .notANumber
  | zero (sign : Sign) : IsCanonical (.zero sign)
  | finite (sign : Sign) {m : ℕ} {e : ℤ} (positive : 0 < m) (fits : Fits m e) (most : e ≤ 971) :
      IsCanonical (.finite sign m e positive)

theorem toNat_leadingOne (fraction : BitVec 52) :
    (1#1 ++ fraction).toNat = 2 ^ 52 + fraction.toNat := by
  rw [BitVec.toNat_append, ← Nat.shiftLeft_add_eq_or_of_lt fraction.isLt]
  rfl

theorem ofBitVec_toBitVec (sign : Sign) : Sign.ofBitVec sign.toBitVec = sign := by
  cases sign <;> rfl

theorem unpackSign_packComponents {format : Format} (sign : Sign)
    (field : BitVec format.exponentBits) (fraction : BitVec format.mantissaBitsWithoutImplicit) :
    unpackSign (packComponents format sign field fraction) = sign.toBitVec := by
  ext i below
  obtain rfl : i = 0 := by omega
  simp [unpackSign, packComponents, BitVec.getLsbD_append, BitVec.getElem_append]

variable (sign : Sign) (field : BitVec 11) (fraction : BitVec 52)

/-- The parts in the three fields of a bit pattern. -/
def ofFields : UnpackedFloat :=
  if field = -1#11 then if fraction = 0#52 then .infinity sign else .notANumber
  else if field = 0#11 then
    if h : fraction = 0#52 then .zero sign
    else .finite sign fraction.toNat (-1074) (by simpa [BitVec.toNat_pos, BitVec.pos_iff_ne_zero])
  else .finite sign (2 ^ 52 + fraction.toNat) (field.toNat - 1075) (by omega)

theorem unpack_eq_ofFields (bits : BitVec 64) :
    unpack .binary64 bits = ofFields (Sign.ofBitVec (@unpackSign .binary64 bits))
      (@unpackExponent .binary64 bits) (@unpackMantissa .binary64 bits) := by
  simp only [unpack, ofFields, toNat_leadingOne]
  split
  · rfl
  · split
    · rename_i bottom
      rw [bottom]
      rfl
    · rfl

theorem unpack_packComponents :
    unpack .binary64 (packComponents .binary64 sign field fraction) =
      ofFields sign field fraction := by
  rw [unpack_eq_ofFields, unpackSign_packComponents, unpackExponent_packComponents,
    unpackMantissa_packComponents, ofBitVec_toBitVec]

theorem isCanonical_ofFields : IsCanonical (ofFields sign field fraction) := by
  have short := fraction.isLt
  have narrow := field.isLt
  unfold ofFields
  split
  · split
    · exact .infinity sign
    · exact .notANumber
  · rename_i notTop
    split
    · split
      · exact .zero sign
      · exact .finite sign _ ⟨by omega, by omega, .inr rfl⟩ (by omega)
    · rename_i notBottom
      have top : field.toNat ≠ 2047 := fun same => notTop (BitVec.eq_of_toNat_eq same)
      have bottom : field.toNat ≠ 0 := fun same => notBottom (BitVec.eq_of_toNat_eq same)
      exact .finite sign _ ⟨by omega, by omega, .inl (by omega)⟩ (by omega)

theorem isCanonical_unpack (x : Float.Model) : IsCanonical x.unpack := by
  have parts : x.unpack = unpack .binary64 x.toBits.toBitVec := rfl
  rw [parts, unpack_eq_ofFields]
  exact isCanonical_ofFields _ _ _

variable {m : ℕ} {e : ℤ}

theorem pack_finite (positive : 0 < m) (fits : Fits m e) :
    pack .binary64 (.finite sign m e positive) = packComponents .binary64 sign
      (if 971 < e then -1#11 else if 2 ^ 52 ≤ m then BitVec.ofNat 11 (e + 1075).toNat else 0#11)
      (if 971 < e then 0#52 else BitVec.ofNat 52 m) := by
  have short := (Nat.log2_lt positive.ne').mpr fits.short
  have full := Nat.le_log2 positive.ne' (k := 52)
  have least := fits.least
  have bias : e + (Format.exponentBias .binary64 : ℤ) + (52 : ℕ) = e + 1075 := by
    change e + 1023 + 52 = e + 1075
    omega
  simp only [pack, bias]
  by_cases most : 971 < e
  · rw [if_pos (show 2 ^ 11 ≤ (e + 1075).toNat + 1 by omega), if_pos most, if_pos most]
    rfl
  · rw [if_neg (show ¬ 2 ^ 11 ≤ (e + 1075).toNat + 1 by omega), if_neg most, if_neg most]
    by_cases normal : 2 ^ 52 ≤ m
    · rw [if_pos normal, if_pos]
      change m.log2 + 1 = 53
      omega
    · rw [if_neg normal, if_neg]
      change m.log2 + 1 ≠ 53
      omega

/-- Parts of the right shape come back from their bit pattern, or as an infinity. -/
theorem unpack_pack_finite (positive : 0 < m) (fits : Fits m e) :
    (Float.Model.pack (.finite sign m e positive)).unpack =
      if 971 < e then .infinity sign else .finite sign m e positive := by
  have parts : (Float.Model.pack (.finite sign m e positive)).unpack =
    unpack .binary64 (pack .binary64 (.finite sign m e positive)) := rfl
  have short := fits.short
  have least := fits.least
  rw [parts, pack_finite sign positive fits, unpack_packComponents, ofFields]
  by_cases most : 971 < e
  · rw [if_pos most, if_pos most, if_pos most, if_pos rfl, if_pos rfl]
  rw [if_neg most, if_neg most, if_neg most]
  by_cases normal : 2 ^ 52 ≤ m
  · have field : (BitVec.ofNat 11 (e + 1075).toNat).toNat = (e + 1075).toNat := by
      rw [BitVec.toNat_ofNat]
      omega
    have notTop : BitVec.ofNat 11 (e + 1075).toNat ≠ -1#11 := by
      intro same
      have : (-1#11).toNat = 2047 := rfl
      rw [same] at field
      omega
    have notBottom : BitVec.ofNat 11 (e + 1075).toNat ≠ 0#11 := by
      intro same
      have : (0#11).toNat = 0 := rfl
      rw [same] at field
      omega
    rw [if_pos normal, if_neg notTop, if_neg notBottom]
    congr 1
    · rw [BitVec.toNat_ofNat]
      omega
    · rw [field]
      omega
  · have fraction : (BitVec.ofNat 52 m).toNat = m := by
      rw [BitVec.toNat_ofNat]
      omega
    have nonzero : BitVec.ofNat 52 m ≠ 0#52 := by
      intro zero
      rw [zero] at fraction
      exact positive.ne fraction
    rw [if_neg normal, if_neg (by decide), if_pos rfl, dif_neg nonzero]
    congr 1
    have := fits.normal
    omega

theorem unpack_pack_zero : (Float.Model.pack (.zero sign)).unpack = .zero sign := by
  cases sign <;> rfl

theorem unpack_pack_infinity : (Float.Model.pack (.infinity sign)).unpack = .infinity sign := by
  cases sign <;> rfl

/-- The parts of a double come back from their bit pattern. -/
theorem unpack_pack_of_isCanonical {parts : UnpackedFloat} (canonical : IsCanonical parts) :
    (Float.Model.pack parts).unpack = parts := by
  cases canonical with
  | infinity sign => exact unpack_pack_infinity sign
  | notANumber => rfl
  | zero sign => exact unpack_pack_zero sign
  | finite sign positive fits most =>
    rw [unpack_pack_finite sign positive fits, if_neg (by omega)]

end Cupping.Binary64
