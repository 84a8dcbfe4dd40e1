import ResourceTree.Number.DecimalText
import ResourceTree.Yaml.Fault

/-!
# Scalars

The styles in which scalars are written, and what a plain scalar stands for: null, a truth value,
a whole number in one of four bases, a double, or else its own text.
-/

namespace ResourceTree.Yaml
set_option autoImplicit false

/-- How a scalar is written. -/
inductive Style where
  | plain
  | singleQuoted
  | doubleQuoted
  | literal
  | folded
  deriving DecidableEq, Repr

/-- The bytes of a tag. Its escapes may spell bytes that are no text. -/
abbrev Tag := List UInt8

namespace Tag

def ofText (s : String) : Tag := s.toUTF8.toList

/-- The sign that begins the tags of a document's own. -/
def sign : UInt8 := 0x21

/-- Whether a tag is one of a document's own. -/
def isOwn (t : Tag) : Bool := t.head? = some sign

/-- The name that a tag of a document's own gives, without its sign unless it has nothing else. -/
def ownName? : Tag → Option String
  | [b] => if b = sign then some "!" else none
  | b :: rest => if b = sign then String.fromUTF8? ⟨rest.toArray⟩ else none
  | [] => none

end Tag

namespace Scalar

open Number (digitsValue?)

def isNull (s : String) : Bool := s = "null" || s = "Null" || s = "NULL" || s = "~"

/-- The truth value of a word. -/
def bool? (s : String) : Option Bool :=
  if s = "true" ∨ s = "True" ∨ s = "TRUE" then some true
  else if s = "false" ∨ s = "False" ∨ s = "FALSE" then some false
  else none

def isSign (c : Char) : Bool := c = '+' || c = '-'

def startsWithSign (s : List Char) : Bool := s.head?.any isSign

/-- Digits after a leading zero are a text and no number. -/
def isZeroLed (s : List Char) : Bool :=
  let digits := if startsWithSign s then s.drop 1 else s
  digits.head? = some '0' && 1 < digits.length && digits.all Char.isDigit

/-- The marks of the bases other than ten. -/
def bases : List (List Char × Nat) := [(['0', 'x'], 16), (['0', 'o'], 8), (['0', 'b'], 2)]

/-- The digits after the mark of a base, with the base. -/
def marked? (s : List Char) : Option (Nat × List Char) :=
  bases.findSome? fun (mark, base) =>
    if s.take 2 = mark then some (base, s.drop 2) else none

/-- The text without one leading plus sign. -/
def dropPlus : List Char → List Char
  | '+' :: rest => rest
  | s => s

/-- A number below a limit that digits spell. -/
def below? (limit base : Nat) (digits : List Char) : Option Nat :=
  (digitsValue? base digits).filter (· < limit)

/-- A whole number that is not negative and below a limit. -/
def natural? (limit : Nat) (s : List Char) : Option Nat :=
  let body := dropPlus s
  match marked? body with
  | some (base, digits) => below? limit base digits
  | none => if startsWithSign body || isZeroLed s then none else below? limit 10 body

/-- The size of a whole number with a minus sign, up to a limit. -/
def negative? (limit : Nat) : List Char → Option Nat
  | '-' :: rest => match marked? rest with
    | some (base, digits) => below? (limit + 1) base digits
    | none => if isZeroLed rest then none else below? (limit + 1) 10 rest
  | _ => none

/-- A finite double, or one of the words for what is not finite. -/
def double? (s : String) : Option Float :=
  let body := String.ofList (dropPlus s.toList)
  if startsWithSign s.toList && startsWithSign (s.toList.drop 1) && s.toList.head? = some '+' then
    none
  else if body = ".inf" ∨ body = ".Inf" ∨ body = ".INF" then some (1.0 / 0.0)
  else if s = "-.inf" ∨ s = "-.Inf" ∨ s = "-.INF" then some (-(1.0 / 0.0))
  else if s = ".nan" ∨ s = ".NaN" ∨ s = ".NAN" then some (0.0 / 0.0)
  else (Number.double? body).filter (·.isFinite)

/-- What a plain scalar stands for. -/
def resolve (s : String) : Found :=
  let chars := s.toList
  if s = "" || isNull s then .null
  else match bool? s with
    | some b => .bool b
    | none => match natural? (Nat.pow 2 64) chars, negative? (Nat.pow 2 63) chars with
      | some n, _ => .whole n
      | none, some n => .whole (-n)
      | none, none => match natural? (Nat.pow 2 128) chars, negative? (Nat.pow 2 127) chars with
        | some n, _ => .wide n
        | none, some n => .wide (-n)
        | none, none => match double? s with
          | some x => if isZeroLed chars then .text s else .double x
          | none => .text s

end Scalar

end ResourceTree.Yaml
