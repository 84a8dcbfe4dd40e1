import Mathlib
import ResourceTree.Proofs.Number.Shortest

/-!
# Doubles and their bits

A finite double has one significand and one exponent, and its sign and these two give its bits back. The
double nearest to a decimal in its interval is therefore the double itself.

No single part of Mathlib brings in `Float.ofBits_toBits` and `Float.toBits_inj`, so this module imports the
whole library.
-/

namespace ResourceTree.Number
set_option autoImplicit false

variable {x : Float} {negative : Bool} {m : Nat} {e : Int}

/-! ## What the bits mean -/

/-- The bits of a finite double are those of its significand and exponent, and its sign. -/
theorem ofBits_finite {bits : Nat} (bounded : bits < 2 ^ 64)
    (finite : Binary64.ofBits bits = .finite negative m e) :
    Representable m e ∧ bits = bitsOf m e + if negative then 2 ^ 63 else 0 := by
  simp only [Binary64.ofBits, Nat.pow_eq] at finite
  have sign : bits / 2 ^ 63 = 0 ∨ bits / 2 ^ 63 = 1 := by omega
  split at finite
  · split at finite <;> exact nomatch finite
  · next notAll =>
    split at finite
    · next subnormal =>
      injection finite with isNegative isM isE
      subst isNegative isM isE
      refine ⟨⟨by omega, by omega, by omega, fun _ => rfl⟩, ?_⟩
      rw [bitsOf, if_pos (by omega)]
      rcases sign with zero | one
      · rw [zero, if_neg (by decide)]
        omega
      · rw [one, if_pos (by decide)]
        omega
    · next normal =>
      injection finite with isNegative isM isE
      subst isNegative isM isE
      refine ⟨⟨by omega, by omega, by omega, fun _ => by omega⟩, ?_⟩
      rw [bitsOf, if_neg (by omega)]
      rcases sign with zero | one
      · rw [zero, if_neg (by decide)]
        omega
      · rw [one, if_pos (by decide)]
        omega

/-- The bits of an infinite double are its exponent and its sign. -/
theorem ofBits_infinite {bits : Nat} (bounded : bits < 2 ^ 64)
    (infinite : Binary64.ofBits bits = .infinite negative) :
    bits = 2047 * 2 ^ 52 + if negative then 2 ^ 63 else 0 := by
  simp only [Binary64.ofBits, Nat.pow_eq] at infinite
  have sign : bits / 2 ^ 63 = 0 ∨ bits / 2 ^ 63 = 1 := by omega
  split at infinite
  · split at infinite
    · injection infinite with isNegative
      subst isNegative
      rcases sign with zero | one
      · rw [zero, if_neg (by decide)]
        omega
      · rw [one, if_pos (by decide)]
        omega
    · exact nomatch infinite
  · split at infinite <;> exact nomatch infinite

/-- A double is no number if its exponent is the largest and its significand is not zero. -/
theorem ofBits_nan {bits : Nat} (nan : Binary64.ofBits bits = .nan) :
    bits / 2 ^ 52 % 2 ^ 11 = 2047 ∧ bits % 2 ^ 52 ≠ 0 := by
  simp only [Binary64.ofBits, Nat.pow_eq] at nan
  split at nan
  · next all =>
    split at nan
    · exact nomatch nan
    · next some => exact ⟨all, some⟩
  · split at nan <;> exact nomatch nan

/-! ## The doubles with a meaning -/

/-- The exponent is in the eleven bits behind the sign. -/
theorem toNat_unpackExponent (bits : UInt64) :
    (@Float.Model.UnpackedFloat.unpackExponent Float.Model.Format.binary64 bits.toBitVec).toNat =
      bits.toNat / 2 ^ 52 % 2 ^ 11 := by
  change (bits.toNat >>> 52) % 2 ^ 11 = _
  rw [Nat.shiftRight_eq_div_pow]

/-- The significand is in the last fifty-two bits. -/
theorem toNat_unpackMantissa (bits : UInt64) :
    (@Float.Model.UnpackedFloat.unpackMantissa Float.Model.Format.binary64 bits.toBitVec).toNat =
      bits.toNat % 2 ^ 52 := by
  change (bits.toNat >>> 0) % 2 ^ 52 = _
  rw [Nat.shiftRight_zero]

/-- A double is given back by its bits. -/
theorem eq_ofBits {bits : Nat} (same : x.toBits.toNat = bits) : x = Float.ofBits (UInt64.ofNat bits) := by
  rw [← same, UInt64.ofNat_toNat, Float.ofBits_toBits]

/-- There is one double that is no number. -/
theorem eq_of_nan (nan : Binary64.ofFloat x = .nan) : x = 0.0 / 0.0 := by
  obtain ⟨exponent, mantissa⟩ := ofBits_nan nan
  have bits : x.toBits.toBitVec = Float.Model.UnpackedFloat.packedNaN Float.Model.Format.binary64 := by
    refine x.toModel.valid.eq_packedNaN ?_ fun zero => mantissa ?_
    · rw [← BitVec.toNat_inj]
      exact (toNat_unpackExponent x.toBits).trans exponent
    · rw [← toNat_unpackMantissa]
      exact congrArg BitVec.toNat zero
  have all : x.toBits = 0x7FF8000000000000 := by
    rw [← UInt64.toBitVec_inj, bits]
    decide +kernel
  have nanBits : ((0.0 : Float) / 0.0).toBits = 0x7FF8000000000000 := by decide +kernel
  exact Float.toBits_inj.1 (all.trans nanBits.symm)

/-- There are two infinite doubles. -/
theorem eq_of_infinite (infinite : Binary64.ofFloat x = .infinite negative) :
    x = if negative then -(1.0 / 0.0) else 1.0 / 0.0 := by
  have bits := eq_ofBits (ofBits_infinite x.toBits.toNat_lt infinite)
  cases negative
  · exact bits.trans (by decide +kernel)
  · exact bits.trans (by decide +kernel)

/-- A double with a significand and an exponent is finite. -/
theorem isFinite_of_finite (finite : Binary64.ofFloat x = .finite negative m e) : x.isFinite = true := by
  have notAll : x.toBits.toNat / 2 ^ 52 % 2 ^ 11 ≠ 2047 := by
    intro all
    simp only [Binary64.ofFloat, Binary64.ofBits, Nat.pow_eq, if_pos all] at finite
    split at finite <;> exact nomatch finite
  have exponent : @Float.Model.UnpackedFloat.unpackExponent Float.Model.Format.binary64
      x.toBits.toBitVec ≠ -1#_ := by
    intro all
    exact notAll ((toNat_unpackExponent x.toBits).symm.trans (congrArg BitVec.toNat all))
  change Float.Model.UnpackedFloat.isFinite
    (Float.Model.UnpackedFloat.unpack Float.Model.Format.binary64 x.toBits.toBitVec) = true
  simp only [Float.Model.UnpackedFloat.unpack, if_neg exponent]
  split
  · split <;> rfl
  · rfl

/-! ## The double nearest to a decimal -/

/-- The magnitude of a decimal that rounds to a double. -/
theorem value_bounds {y : ℚ} (pos : 0 < m) (fits : Representable m e) (near : RoundsTo (y / 2 ^ e) m e) :
    (2 : ℚ) ^ (-1075 : Int) ≤ y ∧ y < 2 ^ (1024 : Int) := by
  have two : (2 : ℚ) ≠ 0 := by norm_num
  have one : (1 : ℚ) ≤ m := by exact_mod_cast pos
  have below : (m : ℚ) + 1 ≤ 2 ^ (53 : Int) := by exact_mod_cast fits.below
  have posPower : (0 : ℚ) < 2 ^ e := by positivity
  have lower : (1 : ℚ) / 2 ≤ y / 2 ^ e := by linarith [near.lower, reach_le m e]
  have upper : y / 2 ^ e < 2 ^ (53 : Int) := by linarith [near.upper]
  rw [le_div_iff₀ posPower] at lower
  rw [div_lt_iff₀ posPower, ← zpow_add₀ two] at upper
  constructor
  · calc (2 : ℚ) ^ (-1075 : Int) = 1 / 2 * 2 ^ (-1074 : Int) := by
          rw [show (-1075 : Int) = -1 + -1074 by omega, zpow_add₀ two, zpow_neg_one, one_div]
      _ ≤ 1 / 2 * 2 ^ e := by
          have := zpow_le_zpow_right₀ (by norm_num : (1 : ℚ) ≤ 2) fits.least
          linarith
      _ ≤ y := lower
  · exact upper.trans_le (zpow_le_zpow_right₀ (by norm_num) (by have := fits.most; omega))

/-- A decimal is less than the power of ten that its digits do not reach. -/
theorem Decimal.value_lt (d : Decimal) : d.value < 10 ^ ((d.digits.log2 / 3 + 1 : ℕ) + d.exponent) := by
  have less : d.digits < 10 ^ (d.digits.log2 / 3 + 1) :=
    calc d.digits < 2 ^ (d.digits.log2 + 1) := Nat.lt_log2_self
      _ ≤ 2 ^ (3 * (d.digits.log2 / 3 + 1)) := Nat.pow_le_pow_right (by omega) (by omega)
      _ = 8 ^ (d.digits.log2 / 3 + 1) := by rw [Nat.pow_mul]
      _ ≤ 10 ^ (d.digits.log2 / 3 + 1) := Nat.pow_le_pow_left (by omega) _
  have cast : (d.digits : ℚ) < 10 ^ (d.digits.log2 / 3 + 1) := by exact_mod_cast less
  rw [value, zpow_add₀ (by norm_num), zpow_natCast]
  exact mul_lt_mul_of_pos_right cast (by positivity)

/-- A decimal that is not zero is no less than the power of its exponent. -/
theorem Decimal.le_value {d : Decimal} (some : d.digits ≠ 0) : 10 ^ d.exponent ≤ d.value := by
  have one : (1 : ℚ) ≤ d.digits := by exact_mod_cast Nat.one_le_iff_ne_zero.2 some
  have pos : (0 : ℚ) < 10 ^ d.exponent := by positivity
  rw [value]
  nlinarith

/-- This power of ten lies far outside the doubles. -/
theorem binary_le_decimal : (2 : ℚ) ^ (1200 : Int) ≤ 10 ^ (400 : Int) := by
  rw [show (1200 : Int) = 3 * 400 by omega, zpow_mul]
  exact zpow_le_zpow_left₀ (by omega) (by norm_num) (by norm_num)

/-- The double nearest to a decimal in the interval of a double is this double. -/
theorem nearestDecimal_of_roundsTo (finite : Binary64.ofFloat x = .finite negative m e) (pos : 0 < m)
    {d : Decimal} (near : RoundsTo (d.value / 2 ^ e) m e) :
    nearestDecimal negative d.digits d.exponent = x := by
  obtain ⟨fits, bits⟩ := ofBits_finite x.toBits.toNat_lt finite
  obtain ⟨low, high⟩ := value_bounds pos fits near
  have some : d.digits ≠ 0 := by
    intro zero
    rw [Decimal.value, zero, Nat.cast_zero, zero_mul] at low
    exact absurd low (not_le.2 (by positivity))
  have notLarge : ¬ d.exponent > 400 := by
    intro large
    have power := zpow_le_zpow_right₀ (by norm_num : (1 : ℚ) ≤ 10) (by omega : 400 ≤ d.exponent)
    have binary := zpow_le_zpow_right₀ (by norm_num : (1 : ℚ) ≤ 2) (by omega : (1024 : Int) ≤ 1200)
    have less := (high.trans_le binary).trans_le binary_le_decimal
    exact absurd less (not_lt.2 (power.trans (Decimal.le_value some)))
  have notSmall : ¬ (d.digits.log2 : Int) / 3 + d.exponent < -400 := by
    intro small
    have power := zpow_le_zpow_right₀ (by norm_num : (1 : ℚ) ≤ 10)
      (by omega : (d.digits.log2 / 3 + 1 : ℕ) + d.exponent ≤ -400)
    have binary := zpow_le_zpow_right₀ (by norm_num : (1 : ℚ) ≤ 2) (by omega : (-1200 : Int) ≤ -1075)
    have inverse := inv_anti₀ (by positivity) binary_le_decimal
    rw [← zpow_neg, ← zpow_neg] at inverse
    have less := (d.value_lt.trans_le power).trans_le (inverse.trans binary)
    exact absurd less (not_lt.2 low)
  rw [nearestDecimal, if_neg some, if_neg notLarge]
  simp only [if_neg notSmall, Nat.pow_eq, nearest]
  rw [nearestBits_of_roundsTo (Nat.mul_ne_zero some (by positivity)) (by positivity) fits, ← bits,
    UInt64.ofNat_toNat, Float.ofBits_toBits]
  rw [Nat.cast_mul, mul_div_assoc, ten_zpow]
  exact near

/-- Whatever decimal has the value of the shortest one of a double reads back as the double. -/
theorem nearestDecimal_shortest (finite : Binary64.ofFloat x = .finite negative m e) {d : Decimal}
    (same : d.value = (shortest m e).value) : nearestDecimal negative d.digits d.exponent = x := by
  obtain ⟨fits, bits⟩ := ofBits_finite x.toBits.toNat_lt finite
  rcases Nat.eq_zero_or_pos m with rfl | pos
  · have zero : d.digits = 0 := by
      rw [shortest, if_pos rfl, Decimal.value, Decimal.value, Nat.cast_zero, zero_mul, mul_eq_zero] at same
      rcases same with zero | power
      · exact_mod_cast zero
      · exact absurd power (by positivity)
    have noBits : bitsOf 0 e = 0 := if_pos (by omega)
    rw [nearestDecimal, if_pos zero, nearest, nearestBits, if_pos rfl, eq_ofBits bits, noBits, Nat.pow_eq]
  · exact nearestDecimal_of_roundsTo finite pos (same ▸ shortest_roundsTo pos fits.below)

end ResourceTree.Number
