import ResourceTree.Yaml.Cursor
import ResourceTree.Yaml.Scalar

/-!
# Printing YAML

Block collections, moved in by two columns; a sequence inside a mapping is not moved in. A text is
plain where it reads back as the same text, between single quotes where it would not, between
double quotes where it needs escapes, and a literal block where it has line feeds.
-/

namespace ResourceTree.Yaml
set_option autoImplicit false

/-- What is printed. -/
inductive Value where
  /-- A number or word, as it is. -/
  | word (s : String)
  | text (s : String)
  | texts (items : List String)
  | mapping (members : List (String × Value))

namespace Printer

/-- Line feed, and all characters but controls and the byte order mark. -/
def isPrintable (c : Char) : Bool :=
  let n := c.toNat
  n = 0x0A || (0x20 ≤ n && n ≤ 0x7E) || (0xA0 ≤ n && n ≤ 0xFFFD && n ≠ 0xFEFF) || 0x10000 ≤ n

/-- Characters that stand for structure at the beginning of a scalar. -/
def isIndicator (c : Char) : Bool := ",[]\x7b\x7d#&*!|>'\"%@`".toList.contains c

/-- A text from one of its characters on begins with a mark of structure: `previous` is the
character before. -/
def marksStructure (previous : Option Char) : List Char → Bool
  | [] => false
  | c :: rest =>
    let gapBefore := previous.all fun p => isBlank p || isBreak p
    let gapAfter := rest.head?.all fun n => isBlank n || isBreak n
    if previous.isNone then
      isIndicator c || ((c = '?' || c = ':' || c = '-') && gapAfter)
    else (c = ':' && gapAfter) || (c = '#' && gapBefore)

/-- Whether some place of a text begins with a mark of structure. -/
def hasStructure (previous : Option Char) : List Char → Bool
  | [] => false
  | c :: rest => marksStructure previous (c :: rest) || hasStructure (some c) rest

/-- Whether a character with one property is followed by one with another. -/
def hasPair (p q : Char → Bool) : List Char → Bool
  | a :: b :: rest => (p a && q b) || hasPair p q (b :: rest)
  | _ => false

def isSpace (c : Char) : Bool := c = ' '

/-- No escapes are needed: all characters are printable and no space stands before a break. -/
def unescaped (s : List Char) : Bool := s.all isPrintable && !hasPair isSpace isBreak s

/-- A text that may be written plain. -/
def fitsPlain (s : List Char) : Bool :=
  unescaped s && !s.any isBreak && s.head?.all (!isSpace ·) && s.getLast?.all (!isSpace ·)
    && !hasStructure none s && s.take 3 ≠ ['-', '-', '-'] && s.take 3 ≠ ['.', '.', '.']

/-- A text that may be written between single quotes. -/
def fitsSingle (s : List Char) : Bool := unescaped s && !hasPair isBreak isSpace s

/-- A text that may be written as a block. -/
def fitsBlock (s : List Char) : Bool := unescaped s && s.getLast?.all (!isSpace ·)

/-- Whether a plain scalar with a text would stand for something else. -/
def isAmbiguous (s : String) : Bool :=
  match Scalar.resolve s with
  | .text _ => Scalar.isZeroLed s.toList
  | _ => true

/-- The style of a text. -/
def styleOf (s : String) : Style :=
  let chars := s.toList
  if chars.contains '\n' then (if fitsBlock chars then .literal else .doubleQuoted)
  else if !isAmbiguous s && fitsPlain chars then .plain
  else if fitsSingle chars then .singleQuoted
  else .doubleQuoted

/-- Upper-case hexadecimal digits, filled up with zeros. -/
def hexDigits (width n : Nat) : List Char :=
  let digits := (Nat.toDigits 16 n).map Char.toUpper
  List.replicate (width - digits.length) '0' ++ digits

/-- A character after a backslash. -/
def escape (c : Char) : List Char :=
  match c with
  | '\x00' => ['0']
  | '\x07' => ['a']
  | '\x08' => ['b']
  | '\t' => ['t']
  | '\n' => ['n']
  | '\x0b' => ['v']
  | '\x0c' => ['f']
  | '\r' => ['r']
  | '\x1b' => ['e']
  | '"' => ['"']
  | '\\' => ['\\']
  | '\u0085' => ['N']
  | '\u00a0' => ['_']
  | '\u2028' => ['L']
  | '\u2029' => ['P']
  | c =>
    let n := c.toNat
    if n ≤ 0xFF then 'x' :: hexDigits 2 n
    else if n ≤ 0xFFFF then 'u' :: hexDigits 4 n
    else 'U' :: hexDigits 8 n

/-- A text between double quotes. -/
def doubleQuoted (s : List Char) : List Char :=
  ['"'] ++ (s.flatMap fun c =>
    if !isPrintable c || isBreak c || c = '"' || c = '\\' then '\\' :: escape c else [c]) ++ ['"']

/-- Characters, with the first one after a break moved in. -/
def movedIn (indent : Nat) (afterBreak : Bool) : List Char → List Char
  | [] => []
  | c :: rest =>
    if isBreak c then c :: movedIn indent true rest
    else (if afterBreak then List.replicate indent ' ' else []) ++ c :: movedIn indent false rest

/-- A text between single quotes. -/
def singleQuoted (indent : Nat) (s : List Char) : List Char :=
  let doubled := s.flatMap fun c => if c = '\'' then ['\'', '\''] else [c]
  ['\''] ++ movedIn indent false (doubled ++ ['\''])

/-- The mark of what becomes of the breaks at the end of a block. -/
def chompingMark (s : List Char) : List Char :=
  match s.reverse with
  | [] => ['-']
  | last :: before =>
    if !isBreak last then ['-']
    else if before.head?.all isBreak then ['+']
    else []

/-- A literal block, after its indicator moved in by some columns. -/
def literal (indent : Nat) (s : List Char) : List Char :=
  let width := if s.head?.any fun c => c = ' ' || isBreak c then ['2'] else []
  ['|'] ++ width ++ chompingMark s ++ ['\n'] ++ movedIn indent true s

/-- A text in its style; the lines of a block are moved in by some columns. -/
def scalar (indent : Nat) (s : String) : List Char :=
  let chars := s.toList
  match styleOf s with
  | .plain => chars
  | .singleQuoted => singleQuoted indent chars
  | .doubleQuoted => doubleQuoted chars
  | .literal | .folded => literal indent chars

/-- A scalar ends its line unless its own last line break has done so. -/
def endLine (s : List Char) : List Char :=
  if s.getLast?.any isBreak then s else s ++ ['\n']

/-- Items below a key, each on a line of its own. -/
def items (indent : Nat) (texts : List String) : List Char :=
  texts.flatMap fun s =>
    List.replicate indent ' ' ++ ['-', ' '] ++ endLine (scalar (indent + 2) s)

mutual

/-- A value after its key. -/
def value (indent : Nat) : Value → List Char
  | .word s => ' ' :: s.toList ++ ['\n']
  | .text s => ' ' :: endLine (scalar (indent + 2) s)
  | .texts [] => " []\n".toList
  | .texts ts => '\n' :: items indent ts
  | .mapping [] => [' ', '\x7b', '\x7d', '\n']
  | .mapping ms => '\n' :: members (indent + 2) ms

def members (indent : Nat) : List (String × Value) → List Char
  | [] => []
  | (k, v) :: rest =>
    List.replicate indent ' ' ++ k.toList ++ [':'] ++ value indent v ++ members indent rest

end

end Printer

/-- The document of a mapping. -/
def print (ms : List (String × Value)) : String := String.ofList (Printer.members 0 ms)

end ResourceTree.Yaml
