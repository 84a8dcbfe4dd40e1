import ResourceTree.Yaml.Fault

/-!
# Places in a YAML text

What is left of a text, with the line and column reached; the characters that blank and break
lines; and the few moves that all parts of the tokenizer are made of.
-/

namespace ResourceTree.Yaml
set_option autoImplicit false

/-- A line feed, carriage return, next line, line separator or paragraph separator. -/
def isBreak (c : Char) : Bool :=
  c = '\n' || c = '\r' || c = '\u0085' || c = '\u2028' || c = '\u2029'

def isBlank (c : Char) : Bool := c = ' ' || c = '\t'

/-- Letters, digits, dashes and underscores: what names are made of. -/
def isNameChar (c : Char) : Bool := c.isAlphanum || c = '-' || c = '_'

structure Cursor where
  rest : List Char
  /-- Characters before. -/
  index : Nat
  /-- Line breaks before. -/
  line : Nat
  /-- Characters before on the same line. -/
  column : Nat

namespace Cursor

/-- The beginning of a text. -/
def start (s : List Char) : Cursor := { rest := s, index := 0, line := 0, column := 0 }

def head? (c : Cursor) : Option Char := c.rest.head?

/-- Whether a character is there after some others. -/
def sees (c : Cursor) (ch : Char) (after : Nat := 0) : Bool := c.rest[after]? = some ch

def seesBreak (c : Cursor) (after : Nat := 0) : Bool := c.rest[after]?.any isBreak

def seesBlank (c : Cursor) (after : Nat := 0) : Bool := c.rest[after]?.any isBlank

/-- Whether a blank, a line break or the end is there after some characters. -/
def seesGap (c : Cursor) (after : Nat := 0) : Bool :=
  c.rest[after]?.all fun ch => isBlank ch || isBreak ch

/-- Passes some characters of the same line. -/
def skip (c : Cursor) (count : Nat := 1) : Cursor :=
  { c with rest := c.rest.drop count, index := c.index + count, column := c.column + count }

/-- The characters of the same line that have a property, and the place after them. -/
def span (p : Char → Bool) (c : Cursor) : List Char × Cursor :=
  let taken := c.rest.takeWhile fun ch => p ch && !isBreak ch
  (taken, c.skip taken.length)

/-- The place after the characters of the same line that have a property. -/
def pass (p : Char → Bool) (c : Cursor) : Cursor := (c.span p).2

/-- The place at the start of the next line, some characters on. -/
def nextLine (c : Cursor) (count : Nat) : Cursor :=
  { rest := c.rest.drop count, index := c.index + count, line := c.line + 1, column := 0 }

/-- Takes a line break. Separators of lines and paragraphs stand for themselves, other breaks for
a line feed. -/
def takeBreak (c : Cursor) : List Char × Cursor :=
  match c.rest with
  | '\r' :: '\n' :: _ => (['\n'], c.nextLine 2)
  | ch :: _ =>
    if ch = '\u2028' ∨ ch = '\u2029' then ([ch], c.nextLine 1)
    else if isBreak ch then (['\n'], c.nextLine 1)
    else ([], c)
  | [] => ([], c)

/-- Whether the line begins with a mark between documents. -/
def seesDocumentMark (mark : Char) (c : Cursor) : Bool :=
  c.column = 0 && c.sees mark && c.sees mark 1 && c.sees mark 2 && c.seesGap 3

/-- Passes blanks and a comment; something else than a line break or the end is a fault. -/
def passLineEnd (context : Context) (c : Cursor) : Except Break Cursor :=
  let c := c.pass isBlank
  let c := if c.sees '#' then c.pass fun _ => true else c
  if c.seesBreak then .ok c.takeBreak.2
  else if c.rest.isEmpty then .ok c
  else .error { problem := .noCommentOrBreak, context }

end Cursor

end ResourceTree.Yaml
