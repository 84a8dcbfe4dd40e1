/-!
# Base64

Bytes as text over the standard alphabet of sixty-four symbols, four symbols for three bytes.
The reader takes the canonical form only: the last group is padded to four symbols, and the bits
that it does not need are zero.
-/

namespace ResourceTree.Archive.Base64
set_option autoImplicit false

/-- Why a text is refused. -/
inductive Fault where
  | symbol (offset : Nat) (byte : UInt8)
  | lastSymbol (offset : Nat) (byte : UInt8)
  | length (count : Nat)
  | padding
  deriving DecidableEq, Repr

def Fault.message : Fault → String
  | .symbol offset byte =>
    "Invalid symbol " ++ toString byte.toNat ++ ", offset " ++ toString offset ++ "."
  | .lastSymbol offset byte =>
    "Invalid last symbol " ++ toString byte.toNat ++ ", offset " ++ toString offset ++ "."
  | .length count => "Invalid input length: " ++ toString count
  | .padding => "Invalid padding"

/-- The padding symbol. -/
def pad : UInt8 := 0x3D

/-- The six bits of a symbol. -/
def value? (b : UInt8) : Option Nat :=
  if 0x41 ≤ b && b ≤ 0x5A then some (b.toNat - 0x41)
  else if 0x61 ≤ b && b ≤ 0x7A then some (b.toNat - 0x61 + 26)
  else if 0x30 ≤ b && b ≤ 0x39 then some (b.toNat - 0x30 + 52)
  else if b == 0x2B then some 62
  else if b == 0x2F then some 63
  else none

/-- The symbol of six bits. -/
def symbol (n : Nat) : UInt8 :=
  UInt8.ofNat <|
    if n < 26 then 0x41 + n
    else if n < 52 then 0x61 + (n - 26)
    else if n < 62 then 0x30 + (n - 52)
    else if n = 62 then 0x2B else 0x2F

/-- The value of a symbol at an offset. -/
def valueAt (offset : Nat) (b : UInt8) : Except Fault Nat :=
  match value? b with
  | some n => .ok n
  | none => .error (.symbol offset b)

/-- The bytes of up to four values. -/
def groupBytes : List Nat → List UInt8
  | [a, b] => [UInt8.ofNat (a * 4 + b / 16)]
  | [a, b, c] => [UInt8.ofNat (a * 4 + b / 16), UInt8.ofNat (b * 16 + c / 4)]
  | [a, b, c, d] =>
    [UInt8.ofNat (a * 4 + b / 16), UInt8.ofNat (b * 16 + c / 4), UInt8.ofNat (c * 64 + d)]
  | _ => []

/-- The bits of the last value that belong to no byte. -/
def spareBits : List Nat → Nat
  | [_, b] => b % 16
  | [_, _, c] => c % 4
  | _ => 0

/-- The values and the number of padding symbols of the last group; `first` is the offset of its
first padding symbol. -/
def lastValues (offset : Nat) (first : Option Nat) :
    List UInt8 → Nat → Except Fault (List Nat × Nat)
  | [], _ => .ok ([], 0)
  | b :: rest, place =>
    if b == pad then
      if place < 2 then .error (.symbol (offset + place) b)
      else do
        let (values, pads) ← lastValues offset (first.or (some place)) rest (place + 1)
        return (values, pads + 1)
    else match first with
      | some p => .error (.symbol (offset + p) pad)
      | none => do
        let n ← valueAt (offset + place) b
        let (values, pads) ← lastValues offset none rest (place + 1)
        return (n :: values, pads)

/-- The last group, which alone may be padded. -/
def decodeLast (offset : Nat) (group : List UInt8) : Except Fault (List UInt8) := do
  let (values, pads) ← lastValues offset none group 0
  if values.length < 2 && !group.isEmpty then .error (.length (offset + values.length))
  else if (values.length + pads) % 4 != 0 then .error .padding
  else if spareBits values != 0 then
    let place := values.length - 1
    .error (.lastSymbol (offset + place) (group[place]?.getD 0))
  else .ok (groupBytes values)

/-- All groups, the last one being the only one with at most four symbols behind `offset`. -/
def decodeGroups (offset : Nat) : List UInt8 → Except Fault (List UInt8)
  | a :: b :: c :: d :: e :: rest => do
    let va ← valueAt offset a
    let vb ← valueAt (offset + 1) b
    let vc ← valueAt (offset + 2) c
    let vd ← valueAt (offset + 3) d
    let bytes ← decodeGroups (offset + 4) (e :: rest)
    return groupBytes [va, vb, vc, vd] ++ bytes
  | group => decodeLast offset group

/-- The bytes of a text. A stray symbol behind the last full group is reported first. -/
def decode (s : List UInt8) : Except Fault (List UInt8) :=
  let stray := match s.getLast? with
    | some b => s.length % 4 == 1 && b != pad && (value? b).isNone
    | none => false
  if stray then .error (.symbol (s.length - 1) (s.getLast?.getD 0)) else decodeGroups 0 s

/-- The text of some bytes. -/
def encode : List UInt8 → List UInt8
  | [] => []
  | [a] =>
    let n := a.toNat * 16
    [symbol (n / 64), symbol (n % 64), pad, pad]
  | [a, b] =>
    let n := (a.toNat * 256 + b.toNat) * 4
    [symbol (n / 4096), symbol (n / 64 % 64), symbol (n % 64), pad]
  | a :: b :: c :: rest =>
    let n := (a.toNat * 256 + b.toNat) * 256 + c.toNat
    symbol (n / 262144) :: symbol (n / 4096 % 64) :: symbol (n / 64 % 64) :: symbol (n % 64)
      :: encode rest

end ResourceTree.Archive.Base64
