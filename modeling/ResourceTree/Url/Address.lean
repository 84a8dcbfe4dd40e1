import ResourceTree.Number.DecimalText
import ResourceTree.Text.Blank
import ResourceTree.Text.Quoted

/-!
# Numeric hosts

Addresses of four bytes, whose parts may be decimal, octal or hexadecimal and the last of which may
stand for several bytes; and addresses of eight pieces, in which one run of zeros may be left out.
-/

namespace ResourceTree.Url
set_option autoImplicit false

open Number (digitsValue?)

/-- The value of one part of an address of four bytes, its base told by how it begins. -/
def ipv4Part? : List Char → Option Nat
  | [] => none
  | '0' :: 'x' :: digits | '0' :: 'X' :: digits =>
    if digits.isEmpty then some 0 else digitsValue? 16 digits
  | '0' :: c :: digits => digitsValue? 8 (c :: digits)
  | digits => digitsValue? 10 digits

/-- The parts of a host between points; a point at the end starts no part. -/
def hostParts (host : List Char) : List (List Char) :=
  let parts := Text.splitOn (· = '.') host
  if parts.getLast? = some [] then parts.dropLast else parts

/-- A host whose last part is a number is an address of four bytes, or malformed. -/
def endsInNumber (host : List Char) : Bool :=
  match (hostParts host).getLast? with
  | none => false
  | some part => (!part.isEmpty && part.all Char.isDigit) || (ipv4Part? part).isSome

/-- The address of the parts: each but the last is one byte. -/
def ipv4Value? (parts : List Nat) : Option Nat := do
  let last ← parts.getLast?
  let bytes := parts.dropLast
  if 3 < bytes.length ∨ bytes.any (255 < ·) ∨ Nat.pow 256 (4 - bytes.length) ≤ last then none
  else some (bytes.foldl (fun n b => n * 256 + b) 0 * Nat.pow 256 (4 - bytes.length) + last)

/-- An address of four bytes, written with points. -/
def ipv4? (host : List Char) : Option String := do
  let n ← ipv4Value? (← (hostParts host).mapM ipv4Part?)
  return ".".intercalate ([24, 16, 8, 0].map fun shift => toString (n >>> shift % 256))

/-- One byte, in decimal digits without a leading zero. -/
def byte? (s : List Char) : Option Nat :=
  if s.length = 1 ∨ s.head? ≠ some '0' then
    (digitsValue? 10 s).filter (· ≤ 255)
  else none

/-- Two pieces from an address of four bytes. -/
def piecesOfIpv4? (s : List Char) : Option (List Nat) :=
  match (Text.splitOn (· = '.') s).mapM byte? with
  | some [a, b, c, d] => some [a * 256 + b, c * 256 + d]
  | _ => none

/-- One piece. -/
def piece? (s : List Char) : Option Nat :=
  if s.length ≤ 4 then digitsValue? 16 s else none

/-- Pieces between colons. The last may be an address of four bytes where the text ends. -/
def pieces? (atEnd : Bool) (s : List Char) : Option (List Nat) :=
  if s.isEmpty then some []
  else
    let parts := Text.splitOn (· = ':') s
    match parts.getLast? with
    | none => some []
    | some last =>
      if atEnd ∧ last.contains '.' then do
        return (← parts.dropLast.mapM piece?) ++ (← piecesOfIpv4? last)
      else parts.mapM piece?

/-- The text before the first two colons in a row, and the text after them. -/
def splitGap : List Char → Option (List Char × List Char)
  | ':' :: ':' :: rest => some ([], rest)
  | c :: rest => (splitGap rest).map fun (before, after) => (c :: before, after)
  | [] => none

/-- The eight pieces of an address. -/
def ipv6Pieces? (s : List Char) : Option (List Nat) :=
  match splitGap s with
  | none => (pieces? true s).filter (·.length = 8)
  | some (before, after) => do
    let before ← pieces? false before
    let after ← pieces? true after
    let given := before.length + after.length
    if 7 < given then none else some (before ++ List.replicate (8 - given) 0 ++ after)

/-- The length of the run of zeros at the start. -/
def zeroRun (pieces : List Nat) : Nat := (pieces.takeWhile (· = 0)).length

/-- The pieces before the first of the longest runs of zeros, and the length of the run. -/
def longestZeroRun : List Nat → Nat × Nat
  | [] => (0, 0)
  | p :: rest =>
    let (start, length) := longestZeroRun rest
    let here := zeroRun (p :: rest)
    if length ≤ here ∧ 0 < here then (0, here) else (start + 1, length)

def pieceTexts (pieces : List Nat) : String :=
  ":".intercalate (pieces.map fun p => String.ofList (Text.hex p))

/-- An address of eight pieces, without its longest run of at least two zeros. -/
def ipv6Text (pieces : List Nat) : String :=
  let (start, length) := longestZeroRun pieces
  if length < 2 then pieceTexts pieces
  else pieceTexts (pieces.take start) ++ "::" ++ pieceTexts (pieces.drop (start + length))

/-- An address of eight pieces. -/
def ipv6? (s : List Char) : Option String := (ipv6Pieces? s).map ipv6Text

end ResourceTree.Url
