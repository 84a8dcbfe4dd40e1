import ResourceTree.Text.Blank

/-!
# Tables of characters

Properties of characters as rows of numbers in increasing order. A row is written in hexadecimal,
its numbers between hyphens and rows between blanks, and starts with a code point; what it says
holds from there up to the next row.
-/

namespace ResourceTree.Text
set_option autoImplicit false

/-- The value of a hexadecimal digit in lower case. -/
def hexDigitValue (c : Char) : Nat :=
  if c.isDigit then c.toNat - '0'.toNat else c.toNat - 'a'.toNat + 10

/-- The number that hexadecimal digits spell. -/
def hexValue (digits : List Char) : Nat :=
  digits.foldl (fun n c => 16 * n + hexDigitValue c) 0

/-- The numbers of the rows in one line. -/
def rowsOfLine (line : String) : List (List Nat) :=
  (splitOn (· = ' ') line.toList).map fun row => (splitOn (· = '-') row).map hexValue

/-- Rows by the code point where they start. -/
structure Table where
  starts : Array Nat
  rests : Array (List Nat)

namespace Table

def ofLines (lines : List String) : Table :=
  let rows := lines.flatMap rowsOfLine
  { starts := (rows.map fun row => row.head?.getD 0).toArray
    rests := (rows.map List.tail).toArray }

/-- The place of the first number above `n` in a sorted array, between two places. -/
def placeAbove (sorted : Array Nat) (n low high : Nat) : Nat :=
  if low < high then
    let middle := (low + high) / 2
    if sorted[middle]?.getD 0 ≤ n then placeAbove sorted n (middle + 1) high
    else placeAbove sorted n low middle
  else low
termination_by high - low

/-- The number of rows that start at `n` or before. -/
def countUpTo (t : Table) (n : Nat) : Nat := placeAbove t.starts n 0 t.starts.size

/-- The last row that starts at `n` or before: the distance from its start, and its other
numbers. -/
def rowAt? (t : Table) (n : Nat) : Option (Nat × List Nat) :=
  match t.countUpTo n with
  | 0 => none
  | place + 1 => do return (n - (← t.starts[place]?), ← t.rests[place]?)

/-- Whether `n` belongs to the class whose membership flips at every row. -/
def flipsAt (t : Table) (n : Nat) : Bool := t.countUpTo n % 2 == 1

end Table

end ResourceTree.Text
