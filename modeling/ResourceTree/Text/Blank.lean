/-!
# Blank characters and lines

The characters that count as white space at the ends of a text, trimming by them, and the
division of a text into lines.
-/

namespace ResourceTree.Text
set_option autoImplicit false

/-- The white space characters of the Unicode standard. -/
def isBlank (c : Char) : Bool :=
  let n := c.toNat
  (0x9 ≤ n && n ≤ 0xD) || n == 0x20 || n == 0x85 || n == 0xA0 || n == 0x1680
    || (0x2000 ≤ n && n ≤ 0x200A) || n == 0x2028 || n == 0x2029 || n == 0x202F || n == 0x205F
    || n == 0x3000

/-- Blank characters removed from both ends. -/
def trimChars (s : List Char) : List Char :=
  ((s.dropWhile isBlank).reverse.dropWhile isBlank).reverse

/-- Blank characters removed from both ends of a text. -/
def trim (s : String) : String :=
  String.ofList (trimChars s.toList)

/-- The maximal runs of characters between separators, the empty ones included. -/
def splitOn (isSeparator : Char → Bool) : List Char → List (List Char)
  | [] => [[]]
  | c :: rest =>
    if isSeparator c then [] :: splitOn isSeparator rest
    else match splitOn isSeparator rest with
      | [] => [[c]]
      | run :: runs => (c :: run) :: runs

/-- A carriage return at the end of a line belongs to the line break. -/
def dropReturn (line : List Char) : List Char :=
  if line.getLast? = some '\r' then line.dropLast else line

/-- The lines of a text: a final line break ends the last line and starts none. -/
def lines (s : String) : List String :=
  let runs := splitOn (· = '\n') s.toList
  let kept := if runs.getLast? = some [] then runs.dropLast else runs
  -- an unfinished last line keeps its carriage return
  let finished := runs.dropLast.length
  kept.zipIdx.map fun (run, i) => String.ofList (if i < finished then dropReturn run else run)

end ResourceTree.Text
