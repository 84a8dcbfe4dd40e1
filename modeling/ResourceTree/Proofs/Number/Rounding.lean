import Mathlib.Algebra.Order.Field.Power
import Mathlib.Data.Nat.Log
import Mathlib.Tactic.FieldSimp
import Mathlib.Tactic.Linarith
import Mathlib.Tactic.NormNum
import Mathlib.Tactic.Positivity
import Mathlib.Tactic.Ring
import ResourceTree.Number.Binary64

/-!
# The nearest double

A ratio rounds to a double if it lies in the interval of the double, which reaches half way to its
neighbours and has its ends if the significand is even. `nearestBits_of_roundsTo` says that the bits of the
nearest double are then those of this double, for all ratios in its interval.
-/

namespace ResourceTree.Number
set_option autoImplicit false

/-- The significands and exponents of finite doubles. -/
structure Representable (m : Nat) (e : Int) : Prop where
  below : m < 2 ^ 53
  least : -1074 ≤ e
  most : e ≤ 971
  normal : m < 2 ^ 52 → e = -1074

/-- The bits of `m * 2 ^ e` without a sign. -/
def bitsOf (m : Nat) (e : Int) : Nat :=
  if m < 2 ^ 52 then m else (e + 1075).toNat * 2 ^ 52 + (m - 2 ^ 52)

/-- How far the interval of a double reaches down, in units of its last place: the lower neighbour of the
least significand of a binade is half as far away as the upper one. -/
def reach (m : Nat) (e : Int) : ℚ := if m = 2 ^ 52 ∧ e ≠ -1074 then 1 / 4 else 1 / 2

/-- The value `y`, in units of `2 ^ e`, lies in the interval of `m * 2 ^ e`. -/
structure RoundsTo (y : ℚ) (m : Nat) (e : Int) : Prop where
  lower : m - reach m e ≤ y
  upper : y ≤ m + 1 / 2
  odd : m % 2 = 1 → m - reach m e < y ∧ y < m + 1 / 2

theorem reach_le (m : Nat) (e : Int) : reach m e ≤ 1 / 2 := by
  rw [reach]
  split <;> norm_num

/-! ## Rounding quotients -/

/-- A power whose exponent may be negative, as a fraction of powers. -/
theorem pow_toNat_div (b : Nat) (pos : 0 < b) (z : Int) :
    ((b ^ z.toNat : ℕ) : ℚ) / ((b ^ (-z).toNat : ℕ) : ℚ) = (b : ℚ) ^ z := by
  have some : (b : ℚ) ≠ 0 := by exact_mod_cast pos.ne'
  rcases le_total 0 z with up | down
  · obtain ⟨n, rfl⟩ := Int.eq_ofNat_of_zero_le up
    simp
  · obtain ⟨n, rfl⟩ := Int.exists_eq_neg_ofNat down
    simp

/-- A quotient is rounded to the nearest number, and to the even one of two. -/
theorem roundDiv_eq {num den n : Nat} (pos : 0 < den) (lower : 2 * n * den ≤ 2 * num + den)
    (upper : 2 * num ≤ (2 * n + 1) * den)
    (odd : n % 2 = 1 → 2 * n * den < 2 * num + den ∧ 2 * num < (2 * n + 1) * den) :
    roundDiv num den = n := by
  have whole := Nat.div_add_mod num den
  have less := Nat.mod_lt num pos
  rw [roundDiv]
  generalize num / den = q at *
  generalize num % den = s at *
  subst whole
  have atMost : q ≤ n := by
    by_contra more
    have step : den * (n + 1) ≤ den * q := Nat.mul_le_mul_left den (by omega)
    nlinarith
  have atLeast : n ≤ q + 1 := by
    by_contra more
    have step : den * (q + 2) ≤ den * n := Nat.mul_le_mul_left den (by omega)
    nlinarith
  have expand (k : Nat) : 2 * k * den = 2 * (den * k) := by ring
  obtain rfl | rfl : n = q ∨ n = q + 1 := by omega
  · -- The quotient is not rounded up.
    have half : 2 * s ≤ den := by nlinarith
    have tie : 2 * s = den → n % 2 ≠ 1 := by
      intro same isOdd
      have := (odd isOdd).2
      nlinarith
    rw [if_neg]
    simp only [gt_iff_lt, Bool.or_eq_true, decide_eq_true_eq, Bool.and_eq_true, beq_iff_eq, not_or,
      not_lt, not_and]
    exact ⟨half, fun same => tie same⟩
  · have half : den ≤ 2 * s := by nlinarith
    have tie : 2 * s = den → q % 2 = 1 := by
      intro same
      by_contra isEven
      have := (odd (by omega)).1
      nlinarith
    rw [if_pos]
    simp only [gt_iff_lt, Bool.or_eq_true, decide_eq_true_eq, Bool.and_eq_true, beq_iff_eq]
    rcases Nat.lt_or_eq_of_le half with more | same
    · exact .inl more
    · exact .inr ⟨same.symm, tie same.symm⟩

/-- The scaled quotient as a ratio of natural numbers. -/
theorem scaled_ratio (num : Nat) {den : Nat} (e : Int) :
    ((num * 2 ^ (-e).toNat : ℕ) : ℚ) / ((den * 2 ^ e.toNat : ℕ) : ℚ) = num / den / 2 ^ e := by
  have power := pow_toNat_div 2 (by omega) e
  push_cast at power ⊢
  rw [← power]
  field_simp

/-- So is a quotient that is scaled by a power of two. -/
theorem roundScaled_eq {num den n : Nat} {e : Int} (pos : 0 < den)
    (lower : (n : ℚ) - 1 / 2 ≤ (num : ℚ) / den / 2 ^ e) (upper : (num : ℚ) / den / 2 ^ e ≤ n + 1 / 2)
    (odd : n % 2 = 1 → (n : ℚ) - 1 / 2 < (num : ℚ) / den / 2 ^ e ∧
      (num : ℚ) / den / 2 ^ e < n + 1 / 2) :
    roundScaled num den e = n := by
  rw [← scaled_ratio] at lower upper odd
  have posScaled : 0 < den * 2 ^ e.toNat := by positivity
  have posCast : (0 : ℚ) < ((den * 2 ^ e.toNat : ℕ) : ℚ) := by exact_mod_cast posScaled
  rw [roundScaled]
  simp only [Nat.pow_eq]
  generalize num * 2 ^ (-e).toNat = a at *
  generalize den * 2 ^ e.toNat = b at *
  rw [le_div_iff₀ posCast] at lower
  rw [div_le_iff₀ posCast] at upper
  rw [lt_div_iff₀ posCast, div_lt_iff₀ posCast] at odd
  refine roundDiv_eq posScaled ?_ ?_ fun isOdd => ⟨?_, ?_⟩
  · have : (2 * n * b : ℚ) ≤ 2 * a + b := by linarith
    exact_mod_cast this
  · have : (2 * a : ℚ) ≤ (2 * n + 1) * b := by linarith
    exact_mod_cast this
  · have : (2 * n * b : ℚ) < 2 * a + b := by linarith [(odd isOdd).1]
    exact_mod_cast this
  · have : (2 * a : ℚ) < (2 * n + 1) * b := by linarith [(odd isOdd).2]
    exact_mod_cast this

/-! ## The exponent of the nearest double -/

/-- The bits of a rounded quotient. One that has reached the next power of two has the next exponent. -/
def packed (rounded : Nat) (e : Int) : Nat :=
  let (m, e) := if rounded = 2 ^ 53 then (2 ^ 52, e + 1) else (rounded, e)
  if m < 2 ^ 52 then m
  else if e > 971 then 2047 * 2 ^ 52
  else (e + 1075).toNat * 2 ^ 52 + (m - 2 ^ 52)

theorem ratio_bounds {num den : Nat} (someNum : num ≠ 0) (someDen : den ≠ 0) :
    (2 : ℚ) ^ ((num.log2 : Int) - den.log2 - 1) < num / den ∧
      (num : ℚ) / den < 2 ^ ((num.log2 : Int) - den.log2 + 1) := by
  have lowNum : ((2 ^ num.log2 : ℕ) : ℚ) ≤ num := by exact_mod_cast Nat.log2_self_le someNum
  have highNum : (num : ℚ) < ((2 ^ (num.log2 + 1) : ℕ) : ℚ) := by exact_mod_cast Nat.lt_log2_self
  have lowDen : ((2 ^ den.log2 : ℕ) : ℚ) ≤ den := by exact_mod_cast Nat.log2_self_le someDen
  have highDen : (den : ℚ) < ((2 ^ (den.log2 + 1) : ℕ) : ℚ) := by exact_mod_cast Nat.lt_log2_self
  have posDen : (0 : ℚ) < den := by exact_mod_cast Nat.pos_of_ne_zero someDen
  push_cast at lowNum highNum lowDen highDen
  have two : (2 : ℚ) ≠ 0 := by norm_num
  constructor
  · rw [lt_div_iff₀ posDen, zpow_sub₀ two, zpow_sub₀ two, zpow_natCast, zpow_natCast, zpow_one]
    have cut : (2 : ℚ) ^ num.log2 / 2 ^ den.log2 / 2 * 2 ^ (den.log2 + 1) = 2 ^ num.log2 := by
      rw [pow_succ]
      field_simp
    have posLeft : (0 : ℚ) < 2 ^ num.log2 / 2 ^ den.log2 / 2 := by positivity
    nlinarith
  · rw [div_lt_iff₀ posDen, zpow_add₀ two, zpow_sub₀ two, zpow_natCast, zpow_natCast, zpow_one]
    have cut : (2 : ℚ) ^ num.log2 / 2 ^ den.log2 * 2 * 2 ^ den.log2 = 2 ^ (num.log2 + 1) := by
      rw [pow_succ]
      field_simp
    have posLeft : (0 : ℚ) < 2 ^ num.log2 / 2 ^ den.log2 * 2 := by positivity
    nlinarith

/-- The guess is too low by one if the ratio is too wide for the significand. -/
theorem wide_iff (num : Nat) {den : Nat} (pos : 0 < den) (guess : Int) :
    2 ^ 53 ≤ num * 2 ^ (-guess).toNat / (den * 2 ^ guess.toNat) ↔
      (2 : ℚ) ^ (guess + 53) ≤ num / den := by
  have posScaled : 0 < den * 2 ^ guess.toNat := by positivity
  have posCast : (0 : ℚ) < ((den * 2 ^ guess.toNat : ℕ) : ℚ) := by exact_mod_cast posScaled
  have posPower : (0 : ℚ) < 2 ^ guess := by positivity
  rw [Nat.le_div_iff_mul_le posScaled, zpow_add₀ (by norm_num : (2 : ℚ) ≠ 0),
    mul_comm ((2 : ℚ) ^ guess), ← le_div_iff₀ posPower, ← scaled_ratio, le_div_iff₀ posCast]
  norm_cast

/-- The exponent is such that the ratio has just as many places before the point as a significand, or the
least one. -/
theorem nearestBits_eq {num den : Nat} (someNum : num ≠ 0) (pos : 0 < den) :
    ∃ e : Int, -1074 ≤ e ∧ (num : ℚ) / den < 2 ^ (e + 53) ∧
      (e ≠ -1074 → (2 : ℚ) ^ (e + 52) ≤ num / den) ∧
      nearestBits num den = packed (roundScaled num den e) e := by
  obtain ⟨low, high⟩ := ratio_bounds someNum pos.ne'
  have unfolded (guess : Int) (eq : guess = (num.log2 : Int) - den.log2 - 53) :
      nearestBits num den = packed (roundScaled num den (max (if 2 ^ 53 ≤ num * 2 ^ (-guess).toNat /
        (den * 2 ^ guess.toNat) then guess + 1 else guess) (-1074))) (max (if 2 ^ 53 ≤
        num * 2 ^ (-guess).toNat / (den * 2 ^ guess.toNat) then guess + 1 else guess) (-1074)) := by
    subst eq
    rw [nearestBits, if_neg someNum]
    rfl
  obtain ⟨guess, eq⟩ : ∃ guess : Int, guess = (num.log2 : Int) - den.log2 - 53 := ⟨_, rfl⟩
  have upper : (num : ℚ) / den < 2 ^ (guess + 54) := by
    rw [eq]
    convert high using 2
    ring
  have lower : (2 : ℚ) ^ (guess + 52) < num / den := by
    rw [eq]
    convert low using 2
    ring
  have up {i j : Int} (le : i ≤ j) : (2 : ℚ) ^ i ≤ 2 ^ j := zpow_le_zpow_right₀ (by norm_num) le
  refine ⟨_, le_max_right _ _, ?_, ?_, unfolded guess eq⟩
  · split
    · exact upper.trans_le (up (by omega))
    · next narrow =>
      rw [wide_iff num pos, not_le] at narrow
      exact narrow.trans_le (up (by omega))
  · split
    · next wide =>
      intro other
      rw [wide_iff num pos] at wide
      rw [max_eq_left (by omega)]
      exact (up (by omega)).trans wide
    · intro other
      rw [max_eq_left (by omega)]
      exact lower.le

/-! ## The bits of the nearest double -/

theorem packed_eq_bitsOf {m : Nat} {e : Int} (fits : Representable m e) : packed m e = bitsOf m e := by
  have below := fits.below
  have most := fits.most
  simp only [packed, if_neg below.ne, bitsOf, if_neg (Int.not_lt.2 most)]

/-- A significand that is rounded up to the next power goes over into the exponent. -/
theorem packed_next {e : Int} (fits : Representable (2 ^ 52) (e + 1)) :
    packed (2 ^ 53) e = bitsOf (2 ^ 52) (e + 1) := by
  have most := fits.most
  simp only [packed, if_true, bitsOf, if_neg (Int.not_lt.2 most)]

/-- A ratio in the interval of a double has this one as its nearest. -/
theorem nearestBits_of_roundsTo {num den m : Nat} {e : Int} (someNum : num ≠ 0) (pos : 0 < den)
    (fits : Representable m e) (near : RoundsTo ((num : ℚ) / den / 2 ^ e) m e) :
    nearestBits num den = bitsOf m e := by
  obtain ⟨e', least, high, low, bits⟩ := nearestBits_eq someNum pos
  have two : (2 : ℚ) ≠ 0 := by norm_num
  have posPower : (0 : ℚ) < 2 ^ e := by positivity
  -- Everything is compared in units of the last place of the double.
  have highScaled : (num : ℚ) / den / 2 ^ e < 2 ^ (e' - e + 53) := by
    rw [div_lt_iff₀ posPower, ← zpow_add₀ two, show e' - e + 53 + e = e' + 53 by omega]
    exact high
  have lowScaled : e' ≠ -1074 → (2 : ℚ) ^ (e' - e + 52) ≤ (num : ℚ) / den / 2 ^ e := by
    intro other
    rw [le_div_iff₀ posPower, ← zpow_add₀ two, show e' - e + 52 + e = e' + 52 by omega]
    exact low other
  have reachUp := reach_le m e
  have below : (m : ℚ) + 1 ≤ 2 ^ 53 := by exact_mod_cast fits.below
  rcases lt_trichotomy e' e with less | rfl | more
  · -- The ratio lies just below a power of two, and the double is this power.
    have notLeast : e ≠ -1074 := by have := fits.least; omega
    have full : 2 ^ 52 ≤ m := by
      by_contra short
      exact notLeast (fits.normal (by omega))
    have cut : (2 : ℚ) ^ (e' - e + 53) ≤ 2 ^ (52 : Int) :=
      zpow_le_zpow_right₀ (by norm_num) (by omega)
    have power : (2 : ℚ) ^ (52 : Int) = 2 ^ 52 := by norm_num
    have least : m = 2 ^ 52 := by
      have : (m : ℚ) < 2 ^ 52 + 1 := by linarith [near.lower]
      have : m < 2 ^ 52 + 1 := by exact_mod_cast this
      omega
    subst least
    have quarter : reach (2 ^ 52) e = 1 / 4 := by rw [reach, if_pos ⟨rfl, notLeast⟩]
    have lower := near.lower
    rw [quarter] at lower
    push_cast at lower
    obtain rfl : e = e' + 1 := by
      by_contra other
      have far : (2 : ℚ) ^ (e' - e + 53) ≤ 2 ^ (51 : Int) :=
        zpow_le_zpow_right₀ (by norm_num) (by omega)
      norm_num at far lower
      linarith
    have double : (num : ℚ) / den / 2 ^ e' = 2 * ((num : ℚ) / den / 2 ^ (e' + 1)) := by
      rw [zpow_add₀ two]
      field_simp
    have rounded : roundScaled num den e' = 2 ^ 53 := by
      refine roundScaled_eq pos ?_ ?_ fun isOdd => absurd isOdd (by decide)
      · rw [double]
        push_cast
        linarith
      · rw [double]
        push_cast
        linarith
    rw [bits, rounded, packed_next fits]
  · rw [bits]
    have rounded : roundScaled num den e' = m := by
      refine roundScaled_eq pos (by linarith [near.lower]) near.upper fun isOdd => ⟨?_, (near.odd isOdd).2⟩
      linarith [(near.odd isOdd).1]
    rw [rounded, packed_eq_bitsOf fits]
  · -- The ratio would have a place more than the significand.
    have wide : (2 : ℚ) ^ (53 : Int) ≤ 2 ^ (e' - e + 52) := zpow_le_zpow_right₀ (by norm_num) (by omega)
    have := lowScaled (by have := fits.least; omega)
    have := near.upper
    have power : (2 : ℚ) ^ (53 : Int) = 2 ^ 53 := by norm_num
    linarith

end ResourceTree.Number
