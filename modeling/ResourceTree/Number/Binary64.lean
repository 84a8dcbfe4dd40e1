/-!
# Double-precision numbers as integers times powers of two

The exact value of a double, and the double nearest to a given ratio of natural numbers. Halfway
cases go to the neighbour with the even significand.
-/

namespace ResourceTree.Number
set_option autoImplicit false

/-- What a double stands for: a finite one is the signed product `significand * 2 ^ exponent`. -/
inductive Binary64 where
  | nan
  | infinite (negative : Bool)
  | finite (negative : Bool) (significand : Nat) (exponent : Int)

/-- The meaning of the sixty-four bits of a double. -/
def Binary64.ofBits (bits : Nat) : Binary64 :=
  let negative : Bool := bits / Nat.pow 2 63 % 2 == 1
  let biased : Nat := bits / Nat.pow 2 52 % Nat.pow 2 11
  let fraction : Nat := bits % Nat.pow 2 52
  if biased = 2047 then (if fraction = 0 then .infinite negative else .nan)
  else if biased = 0 then .finite negative fraction (-1074)
  else .finite negative (Nat.pow 2 52 + fraction) ((biased : Int) - 1075)

/-- The meaning of a double. -/
def Binary64.ofFloat (x : Float) : Binary64 :=
  .ofBits x.toBits.toNat

/-- Quotient rounded to the nearest natural number, halves to the even one. -/
def roundDiv (num den : Nat) : Nat :=
  let quotient := num / den
  let twice := 2 * (num % den)
  if twice > den || (twice == den && quotient % 2 == 1) then quotient + 1 else quotient

/-- `num / den / 2 ^ exponent` rounded to a natural number. -/
def roundScaled (num den : Nat) (exponent : Int) : Nat :=
  roundDiv (num * Nat.pow 2 (-exponent).toNat) (den * Nat.pow 2 exponent.toNat)

/-- The bits of the double nearest to `num / den`, without a sign. -/
def nearestBits (num den : Nat) : Nat :=
  if num = 0 then 0
  else
    -- the ratio lies strictly between 2 ^ (guess + 52) and 2 ^ (guess + 54)
    let guess : Int := (Nat.log2 num : Int) - Nat.log2 den - 53
    let wide := Nat.pow 2 53 ≤ num * Nat.pow 2 (-guess).toNat / (den * Nat.pow 2 guess.toNat)
    let exponent := max (if wide then guess + 1 else guess) (-1074)
    let rounded := roundScaled num den exponent
    -- rounding up may reach the next power of two
    let (significand, exponent) :=
      if rounded = Nat.pow 2 53 then (Nat.pow 2 52, exponent + 1) else (rounded, exponent)
    if significand < Nat.pow 2 52 then significand
    else if exponent > 971 then 2047 * Nat.pow 2 52
    else (exponent + 1075).toNat * Nat.pow 2 52 + (significand - Nat.pow 2 52)

/-- The double nearest to `num / den`, with the given sign. -/
def nearest (negative : Bool) (num den : Nat) : Float :=
  Float.ofBits (UInt64.ofNat (nearestBits num den + if negative then Nat.pow 2 63 else 0))

/-- The double nearest to `digits * 10 ^ exponent`, with the given sign. -/
def nearestDecimal (negative : Bool) (digits : Nat) (exponent : Int) : Float :=
  let size : Int := (Nat.log2 digits : Int) / 3 + exponent
  -- outside these bounds the value is beyond every double or below half of the least one
  if digits = 0 then nearest negative 0 1
  else if exponent > 400 then nearest negative (Nat.pow 2 1100) 1
  else if size < -400 then nearest negative 0 1
  else nearest negative (digits * Nat.pow 10 exponent.toNat) (Nat.pow 10 (-exponent).toNat)

end ResourceTree.Number
