import ResourceTree.Number.Binary64

/-!
# Reading decimal texts

Doubles and natural numbers from the texts in which people write them. A decimal has a sign,
digits with a point among them or none, and an exponent; the double is the nearest one.
-/

namespace ResourceTree.Number
set_option autoImplicit false

/-- The digits at the start of a text, and what follows. -/
def digitRun (s : List Char) : List Char × List Char :=
  (s.takeWhile Char.isDigit, s.dropWhile Char.isDigit)

/-- The value of a digit in a base up to sixteen, whatever the case of a letter. -/
def digitValue? (base : Nat) (c : Char) : Option Nat :=
  let n := c.toNat
  let value :=
    if 0x30 ≤ n ∧ n ≤ 0x39 then n - 0x30
    else if 0x41 ≤ n ∧ n ≤ 0x46 then n - 0x37
    else if 0x61 ≤ n ∧ n ≤ 0x66 then n - 0x57
    else 16
  if value < base then some value else none

/-- The number that digits spell, at least one. -/
def digitsValue? (base : Nat) : List Char → Option Nat
  | [] => none
  | digits => digits.foldlM (fun n c => (digitValue? base c).map (n * base + ·)) 0

/-- A sign at the start of a text. -/
def takeSign : List Char → Bool × List Char
  | '-' :: rest => (true, rest)
  | '+' :: rest => (false, rest)
  | s => (false, s)

/-- The exponent that fills the rest of a text. -/
def exponent? : List Char → Option Int
  | [] => some 0
  | mark :: rest =>
    if mark = 'e' ∨ mark = 'E' then
      let (negative, digits) := takeSign rest
      (digitsValue? 10 digits).map fun n => if negative then -(n : Int) else n
    else none

/-- The double nearest to an unsigned decimal. -/
def decimal? (negative : Bool) (s : List Char) : Option Float := do
  let (whole, rest) := digitRun s
  let (fraction, rest) := match rest with
    | '.' :: rest => digitRun rest
    | rest => ([], rest)
  let digits ← digitsValue? 10 (whole ++ fraction)
  let exponent ← exponent? rest
  return nearestDecimal negative digits (exponent - fraction.length)

/-- Why a text is no number. -/
inductive NumberFault where
  | noDigits
  | badDigit
  | tooLarge
  | noDouble
  | badDouble
  deriving DecidableEq, Repr

def NumberFault.message : NumberFault → String
  | noDigits => "cannot parse integer from empty string"
  | badDigit => "invalid digit found in string"
  | tooLarge => "number too large to fit in target type"
  | noDouble => "cannot parse float from empty string"
  | badDouble => "invalid float literal"

/-- One more digit of a natural number below a limit. -/
def takeDigit (limit n : Nat) (c : Char) : Except NumberFault Nat :=
  if !c.isDigit then .error .badDigit
  else
    let n := n * 10 + (c.toNat - 0x30)
    if n < limit then .ok n else .error .tooLarge

/-- The natural number of a text, which may begin with a plus sign, in a number of bits. -/
def natural (bits : Nat) (s : String) : Except NumberFault Nat :=
  match s.toList with
  | [] => .error .noDigits
  | ['+'] => .error .badDigit
  | '+' :: digits => digits.foldlM (takeDigit (Nat.pow 2 bits)) 0
  | digits => digits.foldlM (takeDigit (Nat.pow 2 bits)) 0

/-- The double of a text. Words for infinity and for what is no number count in any case. -/
def double? (s : String) : Option Float :=
  let (negative, rest) := takeSign s.toList
  let word := (String.ofList rest).toLower
  if word = "inf" ∨ word = "infinity" then
    some (if negative then -(1.0 / 0.0) else 1.0 / 0.0)
  else if word = "nan" then some (0.0 / 0.0)
  else decimal? negative rest

/-- The double of a text, or why there is none. -/
def double (s : String) : Except NumberFault Float :=
  match double? s with
  | some x => .ok x
  | none => .error (if s = "" then .noDouble else .badDouble)

end ResourceTree.Number
