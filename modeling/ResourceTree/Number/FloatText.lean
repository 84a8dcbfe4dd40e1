import ResourceTree.Number.Shortest

/-!
# Texts of doubles

The shortest digits of a double set out by a style: which magnitudes are written positionally,
whether a whole number keeps a point, how an exponent is marked, and the words for values that
are not finite.
-/

namespace ResourceTree.Number
set_option autoImplicit false

/-- How a double is written. -/
structure FloatStyle where
  /-- The decimal exponents that are written positionally. -/
  positional : Int → Bool
  /-- A whole number ends in a point and a zero. -/
  keepsPoint : Bool
  /-- What comes before the digits of an exponent that is not negative. -/
  exponentMark : String
  nan : String
  infinity : String

/-- Plain display: always positional, no point after a whole number. -/
def FloatStyle.plain : FloatStyle :=
  { positional := fun _ => true, keepsPoint := false, exponentMark := "e", nan := "NaN",
    infinity := "inf" }

/-- Data: positional from a hundred-thousandth to below ten to the sixteenth, always with a point
or an exponent. -/
def FloatStyle.data (exponentMark nan infinity : String) : FloatStyle :=
  { positional := fun e => -5 ≤ e && e < 16, keepsPoint := true, exponentMark, nan, infinity }

/-- Positional digits of a decimal. -/
def Decimal.positional (d : Decimal) (keepsPoint : Bool) : String :=
  let digits := Nat.toDigits 10 d.digits
  if 0 ≤ d.exponent then
    String.ofList
      (digits ++ List.replicate d.exponent.toNat '0' ++ if keepsPoint then ['.', '0'] else [])
  else
    let places := (-d.exponent).toNat
    let padded := List.replicate (places + 1 - digits.length) '0' ++ digits
    String.ofList
      (padded.take (padded.length - places) ++ ['.'] ++ padded.drop (padded.length - places))

/-- One digit, a point, the rest and an exponent. -/
def Decimal.scientific (d : Decimal) (exponentMark : String) : String :=
  let digits := Nat.toDigits 10 d.digits
  let exponent := d.exponent + digits.length - 1
  let fraction := digits.drop 1
  String.ofList (digits.take 1 ++ (if fraction.isEmpty then [] else ['.'] ++ fraction))
    ++ (if exponent < 0 then "e-" else exponentMark) ++ toString exponent.natAbs

/-- The text of a double in a style. -/
def FloatStyle.text (style : FloatStyle) (x : Float) : String :=
  match Binary64.ofFloat x with
  | .nan => style.nan
  | .infinite negative => (if negative then "-" else "") ++ style.infinity
  | .finite negative significand exponent =>
    let d := shortest significand exponent
    let size := d.exponent + (Nat.toDigits 10 d.digits).length - 1
    (if negative then "-" else "")
      ++ (if style.positional size then d.positional style.keepsPoint
          else d.scientific style.exponentMark)

end ResourceTree.Number
