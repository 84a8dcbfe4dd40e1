import ResourceTree.Text.Quoted

/-!
# Percent escapes

Bytes that may not stand for themselves are spelled by a percent sign and two hexadecimal digits.
Each part of a URL has its own set of characters that are escaped; controls and what is not ASCII
are always escaped.
-/

namespace ResourceTree.Url
set_option autoImplicit false

/-- Characters that are escaped beside controls and what is not ASCII. -/
abbrev EscapeSet := List Char

namespace EscapeSet

def controls : EscapeSet := []

def fragment : EscapeSet := [' ', '"', '<', '>', '\x60']

def query : EscapeSet := [' ', '"', '#', '<', '>']

/-- The query of a special URL. -/
def specialQuery : EscapeSet := '\'' :: query

def path : EscapeSet := ['#', '?', '\x7b', '\x7d'] ++ fragment

/-- A segment that is appended may hold no solidus of its own. -/
def segment : EscapeSet := ['/', '%'] ++ path

/-- A segment that is appended to a special URL. -/
def specialSegment : EscapeSet := '\\' :: segment

def userinfo : EscapeSet := ['/', ':', ';', '=', '@', '[', '\\', ']', '^', '|'] ++ path

end EscapeSet

/-- The escape of a byte. -/
def escapeByte (b : UInt8) : List Char :=
  let digit (n : Nat) : Char := (Nat.digitChar n).toUpper
  ['%', digit (b.toNat / 16), digit (b.toNat % 16)]

/-- A character as it is written where the characters of a set are escaped. -/
def escapeChar (set : EscapeSet) (c : Char) : List Char :=
  if c.toNat < 0x20 ∨ 0x7E < c.toNat ∨ set.contains c then
    (String.singleton c).toUTF8.toList.flatMap escapeByte
  else [c]

def escape (set : EscapeSet) (s : List Char) : String :=
  String.ofList (s.flatMap (escapeChar set))

/-- The value of a hexadecimal digit. -/
def hexDigit? (b : UInt8) : Option UInt8 :=
  if 0x30 ≤ b ∧ b ≤ 0x39 then some (b - 0x30)
  else if 0x41 ≤ b ∧ b ≤ 0x46 then some (b - 0x37)
  else if 0x61 ≤ b ∧ b ≤ 0x66 then some (b - 0x57)
  else none

/-- The bytes that a text with escapes spells; a percent sign that starts no escape is kept. -/
def unescape : List UInt8 → List UInt8
  | 0x25 :: a :: b :: rest =>
    match hexDigit? a, hexDigit? b with
    | some x, some y => (x * 16 + y) :: unescape rest
    | _, _ => 0x25 :: unescape (a :: b :: rest)
  | b :: rest => b :: unescape rest
  | [] => []

end ResourceTree.Url
