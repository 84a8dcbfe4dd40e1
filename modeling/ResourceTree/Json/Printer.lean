import ResourceTree.Json.Fault

/-!
# Printing JSON

The compact form: no blanks, members in the order the object holds them, and texts with the
short escapes, other controls by number and all else as it is.
-/

namespace ResourceTree.Json
set_option autoImplicit false

/-- One character of a text. -/
def printChar (c : Char) : List Char :=
  if c = '"' then ['\\', '"']
  else if c = '\\' then ['\\', '\\']
  else if c = '\n' then ['\\', 'n']
  else if c = '\r' then ['\\', 'r']
  else if c = '\t' then ['\\', 't']
  else if c.toNat = 0x08 then ['\\', 'b']
  else if c.toNat = 0x0C then ['\\', 'f']
  else if c.toNat < 0x20 then
    ['\\', 'u', '0', '0'] ++ (if c.toNat < 0x10 then ['0'] else []) ++ Text.hex c.toNat
  else [c]

/-- A text with its quotes. -/
def printText (s : String) : List Char :=
  ['"'] ++ s.toList.flatMap printChar ++ ['"']

/-- A number; a double that is not finite has no number and is written as null. -/
def printNumber : Number → List Char
  | .whole n => (toString n).toList
  | .double x => if x.isFinite then (numberStyle.text x).toList else "null".toList

mutual

def printChars : Value → List Char
  | .null => "null".toList
  | .bool true => "true".toList
  | .bool false => "false".toList
  | .number n => printNumber n
  | .text s => printText s
  | .array [] => ['[', ']']
  | .array (v :: rest) => '[' :: printChars v ++ printItems rest
  | .object [] => ['\x7b', '\x7d']
  | .object ((k, v) :: rest) => '\x7b' :: printText k ++ ':' :: printChars v ++ printMembers rest

def printItems : List Value → List Char
  | [] => [']']
  | v :: rest => ',' :: printChars v ++ printItems rest

def printMembers : List (String × Value) → List Char
  | [] => ['\x7d']
  | (k, v) :: rest => ',' :: printText k ++ ':' :: printChars v ++ printMembers rest

end

/-- The compact text of a value. -/
def print (v : Value) : String := String.ofList (printChars v)

end ResourceTree.Json
