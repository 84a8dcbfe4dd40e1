import ResourceTree.Number.Binary64

/-!
# The shortest decimal of a double

Of all decimals that read back as a given double, the ones with the fewest digits, and of those
the one nearest to the double. The search goes through one, two, up to seventeen digits; on each
decimal grid only the two neighbours of the exact value can qualify.
-/

namespace ResourceTree.Number
set_option autoImplicit false

/-- The value `digits * 10 ^ exponent`. -/
structure Decimal where
  digits : Nat
  exponent : Int

/-- The bounds of the values that round to a double, and the double itself, in a common unit. -/
structure RoundingInterval where
  low : Nat
  value : Nat
  high : Nat
  unit : Nat
  closed : Bool

/-- The interval around `significand * 2 ^ exponent`: it reaches half way to both neighbours,
of which the lower one is nearer when the significand is the least of its binade. -/
def RoundingInterval.around (significand : Nat) (exponent : Int) : RoundingInterval :=
  let scale := Nat.pow 2 (exponent - 2).toNat
  let below := if significand = Nat.pow 2 52 && exponent != -1074 then 1 else 2
  { low := (4 * significand - below) * scale
    value := 4 * significand * scale
    high := (4 * significand + 2) * scale
    unit := Nat.pow 2 (2 - exponent).toNat
    closed := significand % 2 == 0 }

/-- The least power of ten above a positive value `num / den`, as an exponent. -/
def magnitude (num den : Nat) : Int :=
  if den ≤ num then ((Nat.toDigits 10 (num / den)).length : Int)
  else 1 - (Nat.toDigits 10 (den / num)).length
    + (if num * Nat.pow 10 ((Nat.toDigits 10 (den / num)).length - 1) < den then 0 else 1)

/-- Whether `digits * 10 ^ exponent` rounds to the interval's double. -/
def RoundingInterval.holds (i : RoundingInterval) (digits : Nat) (exponent : Int) : Bool :=
  let x := digits * Nat.pow 10 exponent.toNat * i.unit
  let power := Nat.pow 10 (-exponent).toNat
  if i.closed then i.low * power ≤ x && x ≤ i.high * power
  else i.low * power < x && x < i.high * power

/-- The nearer of two neighbouring grid points, an exact tie going to the even one. -/
def RoundingInterval.nearer (i : RoundingInterval) (lower : Nat) (exponent : Int) : Nat :=
  let twice := (2 * lower + 1) * Nat.pow 10 exponent.toNat * i.unit
  let value := 2 * i.value * Nat.pow 10 (-exponent).toNat
  if value < twice then lower
  else if twice < value then lower + 1
  else if lower % 2 = 0 then lower else lower + 1

/-- The grid point with the given exponent that reads back, if there is one. -/
def RoundingInterval.onGrid (i : RoundingInterval) (exponent : Int) : Option Nat :=
  let lower := i.value * Nat.pow 10 (-exponent).toNat / (i.unit * Nat.pow 10 exponent.toNat)
  match i.holds lower exponent, i.holds (lower + 1) exponent with
  | true, true => some (i.nearer lower exponent)
  | true, false => some lower
  | false, true => some (lower + 1)
  | false, false => none

/-- The first grid with a hit, from `count` digits on. -/
def RoundingInterval.search (i : RoundingInterval) (top : Int) (count : Nat) : Nat → Decimal
  | 0 => { digits := i.value / i.unit, exponent := 0 }
  | grids + 1 =>
    match i.onGrid (top - count) with
    | some digits => { digits, exponent := top - count }
    | none => i.search top (count + 1) grids

/-- Trailing zeros of the digits moved into the exponent. -/
def Decimal.normal (d : Decimal) : Nat → Decimal
  | 0 => d
  | steps + 1 =>
    if d.digits != 0 && d.digits % 10 == 0 then
      Decimal.normal { digits := d.digits / 10, exponent := d.exponent + 1 } steps
    else d

/-- The shortest decimal that reads back as `significand * 2 ^ exponent`. -/
def shortest (significand : Nat) (exponent : Int) : Decimal :=
  if significand = 0 then { digits := 0, exponent := 0 }
  else
    let i := RoundingInterval.around significand exponent
    (i.search (magnitude i.value i.unit) 1 17).normal 20

end ResourceTree.Number
