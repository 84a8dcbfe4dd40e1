import ResourceTree.Number.Shortest
import ResourceTree.Proofs.Number.Rounding

/-!
# The shortest decimal lies in the interval of its double

The search for the shortest decimal tests two neighbours of the exact value on one grid after the other. On
the grid of seventeen digits one of them lies in the interval of the double, so that the search ends with a
decimal that rounds to it.
-/

namespace ResourceTree.Number
set_option autoImplicit false

variable {m : Nat} {e : Int}

/-- The value of a decimal. -/
def Decimal.value (d : Decimal) : ℚ := d.digits * 10 ^ d.exponent

/-- A decimal power as a fraction of natural powers. -/
theorem ten_zpow (x : Int) :
    ((10 ^ x.toNat : ℕ) : ℚ) / ((10 ^ (-x).toNat : ℕ) : ℚ) = 10 ^ x := by
  have power := pow_toNat_div 10 (by omega) x
  push_cast at power ⊢
  exact power

/-- Moving zeros at the end into the exponent does not change a decimal. -/
theorem Decimal.value_normal (d : Decimal) (steps : Nat) : (d.normal steps).value = d.value := by
  induction steps generalizing d with
  | zero => rfl
  | succ steps ih =>
    rw [normal]
    split
    · next moved =>
      simp only [Bool.and_eq_true, bne_iff_ne, beq_iff_eq] at moved
      have whole : ((d.digits / 10 : ℕ) : ℚ) * 10 = d.digits := by
        exact_mod_cast Nat.div_mul_cancel (Nat.dvd_of_mod_eq_zero moved.2)
      rw [ih, value, value, zpow_add₀ (by norm_num), zpow_one, ← whole]
      ring
    · rfl

/-! ## The interval of a double -/

/-- A number of quarters of the last place against a decimal, both in the unit of the interval. -/
theorem quarters_eq (a digits : Nat) (x : Int) :
    ∃ unit : ℚ, 0 < unit ∧
      ((a * 2 ^ (e - 2).toNat * 10 ^ (-x).toNat : ℕ) : ℚ) = a / 4 * unit ∧
      ((digits * 10 ^ x.toNat * 2 ^ (2 - e).toNat : ℕ) : ℚ) = digits * 10 ^ x / 2 ^ e * unit := by
  have place : ((2 ^ (e - 2).toNat : ℕ) : ℚ) = 2 ^ e / 4 * ((2 ^ (2 - e).toNat : ℕ) : ℚ) := by
    have power := pow_toNat_div 2 (by omega) (e - 2)
    rw [neg_sub, zpow_sub₀ (by norm_num), div_eq_iff (by positivity)] at power
    rw [power]
    norm_num
  have power : ((10 ^ x.toNat : ℕ) : ℚ) = 10 ^ x * ((10 ^ (-x).toNat : ℕ) : ℚ) := by
    rw [← ten_zpow, div_mul_cancel₀ _ (by positivity)]
  refine ⟨2 ^ e * ((2 ^ (2 - e).toNat : ℕ) : ℚ) * ((10 ^ (-x).toNat : ℕ) : ℚ), by positivity, ?_, ?_⟩
  · rw [Nat.cast_mul, Nat.cast_mul, place]
    ring
  · rw [Nat.cast_mul, Nat.cast_mul, power]
    field_simp

/-- The quarters of the last place by which the interval reaches down. -/
theorem reach_eq (m : Nat) (e : Int) :
    reach m e = ((if m = 2 ^ 52 && e != -1074 then 1 else 2 : ℕ) : ℚ) / 4 := by
  rw [reach]
  by_cases edge : m = 2 ^ 52 ∧ e ≠ -1074
  · rw [if_pos edge, if_pos (by simpa using edge)]
    norm_num
  · rw [if_neg edge, if_neg (by simpa using edge)]
    norm_num

theorem holds_iff (pos : 0 < m) (digits : Nat) (x : Int) :
    (RoundingInterval.around m e).holds digits x = true ↔
      RoundsTo ((digits : ℚ) * 10 ^ x / 2 ^ e) m e := by
  obtain ⟨below, isBelow⟩ :
      ∃ below : Nat, below = if m = 2 ^ 52 && e != -1074 then 1 else 2 := ⟨_, rfl⟩
  have small : below ≤ 4 * m := by
    rw [isBelow]
    split <;> omega
  have low : ((4 * m - below : ℕ) : ℚ) / 4 = m - reach m e := by
    rw [reach_eq, ← isBelow, Nat.cast_sub small]
    push_cast
    ring
  have high : ((4 * m + 2 : ℕ) : ℚ) / 4 = m + 1 / 2 := by
    push_cast
    ring
  obtain ⟨unit, posUnit, lowEq, valueEq⟩ := quarters_eq (e := e) (4 * m - below) digits x
  obtain ⟨unit', posUnit', highEq, valueEq'⟩ := quarters_eq (e := e) (4 * m + 2) digits x
  rw [low] at lowEq
  rw [high] at highEq
  simp only [RoundingInterval.around, RoundingInterval.holds, Nat.pow_eq, ← isBelow]
  generalize (4 * m - below) * 2 ^ (e - 2).toNat * 10 ^ (-x).toNat = l at *
  generalize (4 * m + 2) * 2 ^ (e - 2).toNat * 10 ^ (-x).toNat = h at *
  generalize digits * 10 ^ x.toNat * 2 ^ (2 - e).toNat = v at *
  generalize (digits : ℚ) * 10 ^ x / 2 ^ e = y at *
  have le_low : l ≤ v ↔ m - reach m e ≤ y := by
    rw [← Nat.cast_le (α := ℚ), lowEq, valueEq, mul_le_mul_iff_left₀ posUnit]
  have le_high : v ≤ h ↔ y ≤ m + 1 / 2 := by
    rw [← Nat.cast_le (α := ℚ), highEq, valueEq', mul_le_mul_iff_left₀ posUnit']
  have lt_low : l < v ↔ m - reach m e < y := by
    rw [← Nat.cast_lt (α := ℚ), lowEq, valueEq, mul_lt_mul_iff_left₀ posUnit]
  have lt_high : v < h ↔ y < m + 1 / 2 := by
    rw [← Nat.cast_lt (α := ℚ), highEq, valueEq', mul_lt_mul_iff_left₀ posUnit']
  by_cases even : m % 2 = 0
  · simp only [even, beq_self_eq_true, if_true, Bool.and_eq_true, decide_eq_true_eq, le_low, le_high]
    exact ⟨fun within => ⟨within.1, within.2, fun isOdd => by omega⟩, fun near => ⟨near.lower, near.upper⟩⟩
  · rw [beq_false_of_ne even]
    simp only [Bool.false_eq_true, if_false, Bool.and_eq_true, decide_eq_true_eq, lt_low, lt_high]
    exact ⟨fun within => ⟨within.1.le, within.2.le, fun _ => within⟩, fun near => near.odd (by omega)⟩

/-! ## The search -/

/-- What a grid gives lies in the interval, and it gives something if one of the neighbours does. -/
theorem onGrid_holds {i : RoundingInterval} {x : Int} {digits : Nat}
    (hit : i.onGrid x = some digits) : i.holds digits x = true := by
  simp only [RoundingInterval.onGrid] at hit
  split at hit
  · next lower upper =>
    obtain rfl := Option.some.inj hit
    simp only [RoundingInterval.nearer]
    split
    · exact lower
    · split
      · exact upper
      · split
        · exact lower
        · exact upper
  · next lower _ => exact Option.some.inj hit ▸ lower
  · next _ upper => exact Option.some.inj hit ▸ upper
  · exact nomatch hit

theorem search_holds {i : RoundingInterval} {top : Int} {count grids last : Nat} {digits : Nat}
    (hit : i.onGrid (top - last) = some digits) (from_le : count ≤ last) (lt : last < count + grids) :
    i.holds (i.search top count grids).digits (i.search top count grids).exponent = true := by
  induction grids generalizing count with
  | zero => omega
  | succ grids ih =>
    rw [RoundingInterval.search]
    split
    · next found => exact onGrid_holds found
    · next none =>
      have other : count ≠ last := by
        rintro rfl
        rw [hit] at none
        exact nomatch none
      exact ih (by omega) (by omega)

/-- The exact value of the double as the fraction that the search uses. -/
theorem around_value (m : Nat) (e : Int) :
    (((RoundingInterval.around m e).value : ℕ) : ℚ) / ((RoundingInterval.around m e).unit : ℕ) =
      m * 2 ^ e := by
  have power := pow_toNat_div 2 (by omega) (e - 2)
  rw [neg_sub, zpow_sub₀ (by norm_num)] at power
  simp only [RoundingInterval.around, Nat.pow_eq]
  rw [Nat.cast_mul, mul_div_assoc, power]
  push_cast
  ring

/-- The powers of ten around a number with a given number of digits. -/
theorem toDigits_length_bounds {n : Nat} (pos : 0 < n) :
    10 ^ ((Nat.toDigits 10 n).length - 1) ≤ n ∧ n < 10 ^ (Nat.toDigits 10 n).length ∧
      0 < (Nat.toDigits 10 n).length := by
  have some : 0 < (Nat.toDigits 10 n).length := Nat.length_toDigits_pos
  refine ⟨?_, (Nat.length_toDigits_le_iff (by omega) some).1 le_rfl, some⟩
  rcases Nat.eq_zero_or_pos ((Nat.toDigits 10 n).length - 1) with zero | more
  · rw [zero, pow_zero]
    exact pos
  · by_contra less
    have := (Nat.length_toDigits_le_iff (b := 10) (by omega) more).2 (Nat.lt_of_not_le less)
    omega

theorem magnitude_le {num den : Nat} (someNum : 0 < num) (someDen : 0 < den) :
    (10 : ℚ) ^ (magnitude num den - 1) ≤ num / den := by
  have posNum : (0 : ℚ) < num := by exact_mod_cast someNum
  have posDen : (0 : ℚ) < den := by exact_mod_cast someDen
  rw [magnitude]
  split
  · next le =>
    obtain ⟨lower, -, some⟩ := toDigits_length_bounds (Nat.div_pos le someDen)
    rw [show ((Nat.toDigits 10 (num / den)).length : Int) - 1 =
      (((Nat.toDigits 10 (num / den)).length - 1 : ℕ) : Int) by omega, zpow_natCast, le_div_iff₀ posDen]
    exact_mod_cast (Nat.le_div_iff_mul_le someDen).1 lower
  · next less =>
    obtain ⟨-, upper, some⟩ := toDigits_length_bounds (Nat.div_pos (by omega : num ≤ den) someNum)
    generalize (Nat.toDigits 10 (den / num)).length = length at *
    -- The exponent is not positive, and the power divides one.
    have inverse (k : Nat) (le : den ≤ num * 10 ^ k) : (10 : ℚ) ^ (-(k : Int)) ≤ num / den := by
      rw [zpow_neg, zpow_natCast, inv_le_comm₀ (by positivity) (by positivity), inv_div,
        div_le_iff₀ posNum, mul_comm]
      exact_mod_cast le
    simp only [Nat.pow_eq]
    split
    · rw [show 1 - (length : Int) + 0 - 1 = -(length : Int) by omega]
      refine inverse length ?_
      rw [mul_comm]
      exact ((Nat.div_lt_iff_lt_mul someNum).1 upper).le
    · next reached =>
      rw [show 1 - (length : Int) + 1 - 1 = -((length - 1 : ℕ) : Int) by omega]
      exact inverse (length - 1) (by omega)

/-- The grid points around a ratio. -/
theorem grid_bounds (num : Nat) {den : Nat} (pos : 0 < den) (x : Int) :
    ((num * 10 ^ (-x).toNat / (den * 10 ^ x.toNat) : ℕ) : ℚ) * 10 ^ x ≤ num / den ∧
      (num : ℚ) / den < ((num * 10 ^ (-x).toNat / (den * 10 ^ x.toNat) + 1 : ℕ) : ℚ) * 10 ^ x := by
  have posGrid : 0 < den * 10 ^ x.toNat := by positivity
  have posDen : (0 : ℚ) < den := by exact_mod_cast pos
  have posPower : (0 : ℚ) < ((10 ^ (-x).toNat : ℕ) : ℚ) := by positivity
  have whole := Nat.div_mul_le_self (num * 10 ^ (-x).toNat) (den * 10 ^ x.toNat)
  have less := Nat.lt_succ_iff.2 (le_refl (num * 10 ^ (-x).toNat / (den * 10 ^ x.toNat)))
  rw [Nat.div_lt_iff_lt_mul posGrid] at less
  generalize num * 10 ^ (-x).toNat / (den * 10 ^ x.toNat) = lower at *
  have whole' : (lower : ℚ) * (den * ((10 ^ x.toNat : ℕ) : ℚ)) ≤ num * ((10 ^ (-x).toNat : ℕ) : ℚ) := by
    exact_mod_cast whole
  have less' : (num : ℚ) * ((10 ^ (-x).toNat : ℕ) : ℚ) <
      ((lower + 1 : ℕ) : ℚ) * (den * ((10 ^ x.toNat : ℕ) : ℚ)) := by
    exact_mod_cast less
  rw [← ten_zpow, ← mul_div_assoc, ← mul_div_assoc, div_le_div_iff₀ posPower posDen,
    div_lt_div_iff₀ posDen posPower]
  constructor <;> linarith

/-- On a grid with a spacing of less than a unit of the last place, and of half a unit where the interval
is shorter, one of the neighbours lies in the interval. -/
theorem neighbour_roundsTo {γ : ℚ} {lower : Nat} (below : lower * γ ≤ m)
    (above : (m : ℚ) < ((lower + 1 : ℕ) : ℚ) * γ) (fine : γ < 1 / 2 + reach m e) :
    RoundsTo (lower * γ) m e ∨ RoundsTo (((lower + 1 : ℕ) : ℚ) * γ) m e := by
  have some : 0 < reach m e := by
    rw [reach]
    split <;> norm_num
  push_cast at above ⊢
  by_cases near : m - lower * γ < reach m e
  · left
    exact ⟨by linarith, by linarith, fun _ => ⟨by linarith, by linarith⟩⟩
  · right
    exact ⟨by linarith, by linarith, fun _ => ⟨by linarith, by linarith⟩⟩

/-- Seventeen digits are enough for every double. -/
theorem exists_onGrid (pos : 0 < m) (below : m < 2 ^ 53) :
    ∃ digits, (RoundingInterval.around m e).onGrid
      (magnitude (RoundingInterval.around m e).value (RoundingInterval.around m e).unit - (17 : ℕ)) =
        some digits := by
  have posUnit : 0 < (RoundingInterval.around m e).unit := by
    simp only [RoundingInterval.around, Nat.pow_eq]
    positivity
  have posValue : 0 < (RoundingInterval.around m e).value := by
    simp only [RoundingInterval.around, Nat.pow_eq]
    positivity
  have posPower : (0 : ℚ) < 2 ^ e := by positivity
  have least := magnitude_le posValue posUnit
  generalize exponent : magnitude (RoundingInterval.around m e).value
    (RoundingInterval.around m e).unit - (17 : ℕ) = x
  rw [show magnitude (RoundingInterval.around m e).value (RoundingInterval.around m e).unit - 1 =
    x + 16 by omega, around_value, zpow_add₀ (by norm_num)] at least
  obtain ⟨lowerLe, lessUpper⟩ := grid_bounds (RoundingInterval.around m e).value posUnit x
  rw [around_value] at lowerLe lessUpper
  have lowerHolds := holds_iff (e := e) pos ((RoundingInterval.around m e).value * 10 ^ (-x).toNat /
    ((RoundingInterval.around m e).unit * 10 ^ x.toNat)) x
  have upperHolds := holds_iff (e := e) pos ((RoundingInterval.around m e).value * 10 ^ (-x).toNat /
    ((RoundingInterval.around m e).unit * 10 ^ x.toNat) + 1) x
  simp only [RoundingInterval.onGrid, Nat.pow_eq]
  generalize (RoundingInterval.around m e).value * 10 ^ (-x).toNat /
    ((RoundingInterval.around m e).unit * 10 ^ x.toNat) = lower at *
  -- All in units of the last place.
  rw [mul_div_assoc] at lowerHolds upperHolds
  have spacing : (10 : ℚ) ^ x / 2 ^ e * 10 ^ 16 ≤ m := by
    rw [div_mul_eq_mul_div, div_le_iff₀ posPower]
    exact_mod_cast least
  rw [← div_le_iff₀ posPower, mul_div_assoc] at lowerLe
  have lessUpper : (m : ℚ) < ((lower + 1 : ℕ) : ℚ) * (10 ^ x / 2 ^ e) := by
    rw [← mul_div_assoc, lt_div_iff₀ posPower]
    exact lessUpper
  generalize (10 : ℚ) ^ x / 2 ^ e = γ at *
  have fine : γ < 1 / 2 + reach m e := by
    have cast : (m : ℚ) < 9007199254740992 := by exact_mod_cast below
    rw [reach]
    split
    · next edge =>
      rw [edge.1] at spacing
      norm_num at spacing ⊢
      linarith
    · norm_num at spacing ⊢
      linarith
  rcases neighbour_roundsTo lowerLe lessUpper fine with near | near
  · rw [lowerHolds.2 near]
    cases (RoundingInterval.around m e).holds (lower + 1) x <;> exact ⟨_, rfl⟩
  · rw [upperHolds.2 near]
    cases (RoundingInterval.around m e).holds lower x <;> exact ⟨_, rfl⟩

/-- The shortest decimal of a double lies in its interval. -/
theorem shortest_roundsTo (pos : 0 < m) (below : m < 2 ^ 53) :
    RoundsTo ((shortest m e).value / 2 ^ e) m e := by
  obtain ⟨digits, hit⟩ := exists_onGrid (e := e) pos below
  rw [shortest, if_neg pos.ne', Decimal.value_normal]
  exact (holds_iff pos _ _).1 (search_holds hit (by omega) (by omega))

end ResourceTree.Number
