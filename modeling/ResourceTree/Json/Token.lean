import ResourceTree.Json.Fault
import ResourceTree.Number.Binary64

/-!
# JSON tokens

A text is cut into tokens before it is read. A value that a reader skips is held to weaker rules
than one that is read: its texts may hold lone surrogates and its numbers may be too large. So a
text or number token carries its content or the fault that reading it raises, and a token that
even skipping refuses carries both faults and is the last.
-/

namespace ResourceTree.Json
set_option autoImplicit false

/-- The faults of a broken place: one for a reader that reads it, one for a reader that skips. -/
structure Break where
  read : Fault
  skip : Fault

/-- A break that is the same for every reader. -/
def Break.both (f : Fault) : Break := ⟨f, f⟩

inductive Token where
  | openArray
  | closeArray
  | openObject
  | closeObject
  | comma
  | colon
  | null
  | bool (b : Bool)
  | number (n : Except Fault Number)
  | text (s : Except Fault String)
  /-- A byte that starts no token. -/
  | stray
  | broken (b : Break)

namespace Token

def isDigit (b : UInt8) : Bool := 0x30 ≤ b && b ≤ 0x39

def isSpace (b : UInt8) : Bool := b == 0x20 || b == 0x0A || b == 0x0D || b == 0x09

/-- The value of a hexadecimal digit. -/
def hexDigit? (b : UInt8) : Option Nat :=
  if isDigit b then some (b.toNat - 0x30)
  else if 0x41 ≤ b && b ≤ 0x46 then some (b.toNat - 0x37)
  else if 0x61 ≤ b && b ≤ 0x66 then some (b.toNat - 0x57)
  else none

/-- The number that four hexadecimal digits spell. -/
def hexFour? (a b c d : UInt8) : Option Nat := do
  return ((← hexDigit? a) * 16 + (← hexDigit? b)) * 256 + (← hexDigit? c) * 16 + (← hexDigit? d)

/-- The byte that a one-letter escape stands for. -/
def escaped? (b : UInt8) : Option UInt8 :=
  if b == 0x22 || b == 0x5C || b == 0x2F then some b
  else if b == 0x62 then some 0x08
  else if b == 0x66 then some 0x0C
  else if b == 0x6E then some 0x0A
  else if b == 0x72 then some 0x0D
  else if b == 0x74 then some 0x09
  else none

/-- The bytes after the quote that ends a skipped text. -/
def skipText : List UInt8 → Except Fault (List UInt8)
  | [] => .error .endInText
  | 0x22 :: rest => .ok rest
  | 0x5C :: [] => .error .endInText
  | 0x5C :: 0x75 :: a :: b :: c :: d :: rest =>
    if (hexFour? a b c d).isSome then skipText rest else .error .badEscape
  | 0x5C :: 0x75 :: _ => .error .endInText
  | 0x5C :: e :: rest => if (escaped? e).isSome then skipText rest else .error .badEscape
  | b :: rest => if b < 0x20 then .error .controlCharacter else skipText rest

/-- The UTF-8 bytes of a code point, in reverse. -/
def utf8Reverse (n : Nat) : List UInt8 :=
  (Char.ofNat n).toString.toUTF8.toList.reverse

/-- What a text that is read holds up to its closing quote; `done` is the part before, reversed. -/
def readText (done : List UInt8) : List UInt8 → Except Fault (List UInt8)
  | [] => .error .endInText
  | 0x22 :: _ => .ok done.reverse
  | 0x5C :: [] => .error .endInText
  | 0x5C :: 0x75 :: a :: b :: c :: d :: rest =>
    match hexFour? a b c d with
    | none => .error .badEscape
    | some unit =>
      if 0xDC00 ≤ unit && unit ≤ 0xDFFF then .error .loneSurrogate
      else if unit < 0xD800 || 0xDBFF < unit then readText (utf8Reverse unit ++ done) rest
      else match rest with
        | [] => .error .endInText
        | 0x5C :: [] => .error .endInText
        | 0x5C :: 0x75 :: a' :: b' :: c' :: d' :: rest' =>
          match hexFour? a' b' c' d' with
          | none => .error .badEscape
          | some low =>
            if low < 0xDC00 || 0xDFFF < low then .error .loneSurrogate
            else
              let code := 0x10000 + (unit - 0xD800) * 0x400 + (low - 0xDC00)
              readText (utf8Reverse code ++ done) rest'
        | 0x5C :: 0x75 :: _ => .error .endInText
        | _ => .error .unpairedSurrogate
  | 0x5C :: 0x75 :: _ => .error .endInText
  | 0x5C :: e :: rest =>
    match escaped? e with
    | some b => readText (b :: done) rest
    | none => .error .badEscape
  | b :: rest => if b < 0x20 then .error .controlCharacter else readText (b :: done) rest

/-- The text that bytes spell, if they are UTF-8. -/
def decodeUtf8 (bytes : List UInt8) : Except Fault String :=
  match String.fromUTF8? (ByteArray.mk bytes.toArray) with
  | some s => .ok s
  | none => .error .badUnicode

/-- The token of a text whose opening quote has been taken. -/
def takeText (rest : List UInt8) : Token × List UInt8 :=
  let content := readText [] rest >>= decodeUtf8
  match skipText rest with
  | .ok rest' => (.text content, rest')
  | .error skip =>
    (.broken ⟨match content with | .error read => read | .ok _ => skip, skip⟩, [])

/-- The unsigned parts of a number: digits before the point, digits after it, and exponent. -/
structure Numeral where
  negative : Bool
  whole : List UInt8
  fraction : Option (List UInt8)
  exponent : Option (Bool × List UInt8)

/-- The digits at the start, and what follows. -/
def digitRun (s : List UInt8) : List UInt8 × List UInt8 :=
  (s.takeWhile isDigit, s.dropWhile isDigit)

/-- The break of a digit that is not there. -/
def noDigit : List UInt8 → Break
  | [] => ⟨.endInValue, .badNumber⟩
  | _ => .both .badNumber

/-- The exponent of a number, from its mark on. -/
def takeExponent (n : Numeral) : List UInt8 → Except Break (Numeral × List UInt8)
  | mark :: rest =>
    if mark == 0x65 || mark == 0x45 then
      let (negative, rest) := match rest with
        | 0x2B :: r => (false, r)
        | 0x2D :: r => (true, r)
        | r => (false, r)
      let (digits, rest) := digitRun rest
      if digits.isEmpty then .error (noDigit rest)
      else .ok (⟨n.negative, n.whole, n.fraction, some (negative, digits)⟩, rest)
    else .ok (n, mark :: rest)
  | [] => .ok (n, [])

/-- The fraction and exponent of a number, from its point on. -/
def takeFraction (n : Numeral) : List UInt8 → Except Break (Numeral × List UInt8)
  | 0x2E :: rest =>
    let (digits, rest) := digitRun rest
    if digits.isEmpty then .error (noDigit rest)
    else takeExponent ⟨n.negative, n.whole, some digits, none⟩ rest
  | rest => takeExponent n rest

/-- A number from its first digit on; a leading zero stands alone. -/
def takeNumeral (negative : Bool) (s : List UInt8) : Except Break (Numeral × List UInt8) :=
  let (digits, rest) := digitRun s
  match digits with
  | [] => .error (noDigit rest)
  | 0x30 :: _ :: _ => .error (.both .badNumber)
  | _ => takeFraction ⟨negative, digits, none, none⟩ rest

/-- Decimal digits added to a number one by one. -/
def digitsValue (start : Nat) (digits : List UInt8) : Nat :=
  digits.foldl (fun n d => n * 10 + (d.toNat - 0x30)) start

/-- Adds digits while the result stays below `2 ^ 64`; the rest is only counted. -/
def cappedDigits (start : Nat) : List UInt8 → Nat × Nat
  | [] => (start, 0)
  | d :: rest =>
    let next := start * 10 + (d.toNat - 0x30)
    if next < Nat.pow 2 64 then cappedDigits next rest else (start, rest.length + 1)

/-- `significand * 10 ^ exponent` in at most two roundings: powers of ten up to the 308th are
doubles, and larger divisions are taken in steps. -/
def scaleByTen (significand : Float) (exponent : Int) : Nat → Except Fault Float
  | 0 => .ok significand
  | steps + 1 =>
    if exponent.natAbs ≤ 308 then
      let power := Number.nearestDecimal false 1 exponent.natAbs
      if 0 ≤ exponent then
        let x := significand * power
        if x.isInf then .error .numberTooLarge else .ok x
      else .ok (significand / power)
    else if significand == 0 then .ok significand
    else if 0 ≤ exponent then .error .numberTooLarge
    else scaleByTen (significand / Number.nearestDecimal false 1 308) (exponent + 308) steps

/-- The double of a numeral: the digits that fit sixty-four bits, scaled by a power of ten. -/
def Numeral.toDouble (n : Numeral) : Except Fault Float := do
  let signed (x : Float) : Float := if n.negative then -x else x
  let (whole, surplus) := cappedDigits 0 n.whole
  let fraction := n.fraction.getD []
  let (significand, unused) := cappedDigits whole fraction
  let used := fraction.length - unused
  let start : Int := (surplus : Int) - used
  let (down, digits) := n.exponent.getD (false, [])
  let exponent := digitsValue 0 digits
  if exponent ≥ Nat.pow 2 31 then
    if significand != 0 && !down then .error .numberTooLarge else .ok (signed 0)
  else
    let x ← scaleByTen (UInt64.ofNat significand).toFloat
      (if down then start - exponent else start + exponent) 8
    .ok (signed x)

/-- The value of a numeral: whole when it has neither point nor exponent and fits a word. -/
def Numeral.value (n : Numeral) : Except Fault Number :=
  let whole := digitsValue 0 n.whole
  let plain := n.fraction.isNone && n.exponent.isNone
  if plain && !n.negative && whole < Nat.pow 2 64 then .ok (.whole whole)
  else if plain && n.negative && 0 < whole && whole ≤ Nat.pow 2 63 then
    .ok (.whole (-(whole : Int)))
  else Number.double <$> n.toDouble

def takeNumber (negative : Bool) (s : List UInt8) : Token × List UInt8 :=
  match takeNumeral negative s with
  | .ok (n, rest) => (.number n.value, rest)
  | .error b => (.broken b, [])

/-- A word whose first letter has been taken must go on with the given letters. -/
def takeWord (token : Token) : List UInt8 → List UInt8 → Token × List UInt8
  | [], rest => (token, rest)
  | _ :: _, [] => (.broken (.both .endInValue), [])
  | letter :: letters, b :: rest =>
    if b == letter then takeWord token letters rest else (.broken (.both .noWord), [])

/-- The token that starts with a byte. -/
def take (b : UInt8) (rest : List UInt8) : Token × List UInt8 :=
  if b == 0x5B then (.openArray, rest)
  else if b == 0x5D then (.closeArray, rest)
  else if b == 0x7B then (.openObject, rest)
  else if b == 0x7D then (.closeObject, rest)
  else if b == 0x2C then (.comma, rest)
  else if b == 0x3A then (.colon, rest)
  else if b == 0x22 then takeText rest
  else if b == 0x6E then takeWord .null [0x75, 0x6C, 0x6C] rest
  else if b == 0x74 then takeWord (.bool true) [0x72, 0x75, 0x65] rest
  else if b == 0x66 then takeWord (.bool false) [0x61, 0x6C, 0x73, 0x65] rest
  else if b == 0x2D then takeNumber true rest
  else if isDigit b then takeNumber false (b :: rest)
  else (.stray, [])

/-- The tokens of a text; every step takes a byte at least, so its length bounds their number. -/
def scan : Nat → List UInt8 → List Token
  | 0, _ => []
  | steps + 1, s =>
    match s.dropWhile isSpace with
    | [] => []
    | b :: rest =>
      let (token, rest) := take b rest
      token :: scan steps rest

/-- The tokens of a text. -/
def ofBytes (s : List UInt8) : List Token := scan s.length s

end Token

end ResourceTree.Json
