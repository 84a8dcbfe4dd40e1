import ResourceTree.Number.DecimalText
import ResourceTree.Yaml.Cursor
import ResourceTree.Yaml.Scalar

/-!
# Contents of scalars

How the text of a scalar follows from its lines. Plain and quoted scalars fold their lines: a
single break is a space, and of more breaks all but the first stay. Block scalars keep or fold
their lines and say what becomes of the breaks at the end.
-/

namespace ResourceTree.Yaml
set_option autoImplicit false

/-- Blanks and line breaks between two parts of a scalar. -/
structure Gap where
  /-- Blanks before the first break. -/
  blanks : List Char := []
  /-- The first break, if there is any. -/
  first : Option (List Char) := none
  /-- The breaks after it. -/
  more : List Char := []

namespace Gap

/-- The text that a gap stands for. -/
def fold (g : Gap) : List Char :=
  match g.first with
  | none => g.blanks
  | some ['\n'] => if g.more.isEmpty then [' '] else g.more
  | some first => first ++ g.more

/-- Takes the blanks and breaks at a place, after a gap so far. On lines after the first, `tabs`
says at which columns a tab may stand. -/
def take (tabs : Nat → Bool) : Nat → Gap → Cursor → Except Break (Gap × Cursor)
  | 0, g, c => .ok (g, c)
  | steps + 1, g, c =>
    match c.rest with
    | ch :: _ =>
      if isBlank ch then
        if g.first.isSome then
          if ch = '\t' && !tabs c.column then
            .error { problem := .tabAgainstIndentation, context := some .plainScalar }
          else take tabs steps g c.skip
        else take tabs steps { g with blanks := g.blanks ++ [ch] } c.skip
      else if isBreak ch then
        let (text, c') := c.takeBreak
        match g.first with
        | none => take tabs steps { g with blanks := [], first := some text } c'
        | some _ => take tabs steps { g with more := g.more ++ text } c'
      else .ok (g, c)
    | [] => .ok (g, c)

end Gap

namespace Content

/-- What an escape letter stands for. -/
def escaped? (ch : Char) : Option Char :=
  match ch with
  | '0' => some '\x00'
  | 'a' => some '\x07'
  | 'b' => some '\x08'
  | 't' | '\t' => some '\t'
  | 'n' => some '\n'
  | 'v' => some '\x0b'
  | 'f' => some '\x0c'
  | 'r' => some '\r'
  | 'e' => some '\x1b'
  | ' ' => some ' '
  | '"' => some '"'
  | '/' => some '/'
  | '\\' => some '\\'
  | 'N' => some '\u0085'
  | '_' => some '\u00a0'
  | 'L' => some '\u2028'
  | 'P' => some '\u2029'
  | _ => none

/-- The number of hexadecimal digits after an escape letter. -/
def hexWidth? (ch : Char) : Option Nat :=
  match ch with
  | 'x' => some 2
  | 'u' => some 4
  | 'U' => some 8
  | _ => none

/-- The character that hexadecimal digits spell. -/
def hexChar (digits : List Char) (width : Nat) : Except Break Char :=
  match if digits.length = width then Number.digitsValue? 16 digits else none with
  | none => .error { problem := .noHexDigits, context := some .escape }
  | some n =>
    if h : n.isValidChar then .ok (Char.ofNatAux n h)
    else .error { problem := .badEscapedCharacter, context := some .escape }

/-- An escape after its backslash: the character, and how many characters spell it. -/
def escape (s : List Char) : Except Break (Char × Nat) :=
  match s with
  | [] => .error { problem := .unknownEscape, context := some .escape }
  | ch :: rest => match escaped? ch, hexWidth? ch with
    | some e, _ => .ok (e, 1)
    | none, some width => do return (← hexChar (rest.take width) width, width + 1)
    | none, none => .error { problem := .unknownEscape, context := some .escape }

/-- A quoted scalar after its opening quote; `done` is the text so far, reversed. -/
def quoted (double : Bool) : Nat → List Char → Cursor → Except Break (List Char × Cursor)
  | 0, done, c => .ok (done.reverse, c)
  | steps + 1, done, c =>
    if c.seesDocumentMark '-' || c.seesDocumentMark '.' then
      .error { problem := .documentMarker, context := some .quotedScalar }
    else match c.rest with
    | [] => .error { problem := .endOfStream, context := some .quotedScalar }
    | ch :: rest =>
      if isBlank ch || isBreak ch then do
        let (g, c) ← Gap.take (fun _ => true) c.rest.length {} c
        quoted double steps (g.fold.reverse ++ done) c
      else if !double && ch = '\'' then
        if rest.head? = some '\'' then quoted double steps ('\'' :: done) (c.skip 2)
        else .ok (done.reverse, c.skip)
      else if double && ch = '"' then .ok (done.reverse, c.skip)
      else if double && ch = '\\' then
        if c.seesBreak 1 then do
          -- an escaped break joins the lines
          let (g, c) ←
            Gap.take (fun _ => true) c.rest.length { first := some [] } c.skip.takeBreak.2
          quoted double steps (g.fold.reverse ++ done) c
        else do
          let (e, width) ← escape rest
          quoted double steps (e :: done) (c.skip (width + 1))
      else quoted double steps (ch :: done) c.skip

/-- The characters that end a plain scalar inside brackets. -/
def isFlowEnd (ch : Char) : Bool :=
  ch = ',' || ch = '[' || ch = ']' || ch = '\x7b' || ch = '\x7d'

/-- Whether a plain scalar ends at a character that is no gap. -/
def endsPlain (inFlow : Bool) (c : Cursor) : Bool :=
  (c.sees ':' && c.seesGap 1) || (inFlow && c.head?.any isFlowEnd)

/-- A colon that a bracket or comma follows at once has no meaning inside brackets. -/
def badFlowColon (inFlow : Bool) (c : Cursor) : Bool :=
  inFlow && c.sees ':' && c.rest[1]?.any fun ch => isFlowEnd ch || ch = '?'

/-- A plain scalar; `gap` is what stands between the text so far and the place. Gives the text,
whether line breaks follow it, and the place after them. -/
def plain (inFlow : Bool) (indent : Int) :
    Nat → List Char → Gap → Cursor → Except Break (List Char × Bool × Cursor)
  | 0, done, gap, c => .ok (done.reverse, gap.first.isSome, c)
  | steps + 1, done, gap, c =>
    let finish := .ok (done.reverse, gap.first.isSome, c)
    let atGap : Bool := c.seesBlank || c.seesBreak
    if atGap then do
      let (g, c) ← Gap.take (fun column => indent ≤ column) c.rest.length {} c
      if !inFlow && c.column < indent then .ok (done.reverse, g.first.isSome, c)
      else if c.seesDocumentMark '-' || c.seesDocumentMark '.' || c.sees '#' then
        .ok (done.reverse, g.first.isSome, c)
      else plain inFlow indent steps done g c
    else match c.rest with
    | [] => finish
    | ch :: _ =>
      if badFlowColon inFlow c then
        .error { problem := .flowColon, context := some .plainScalar }
      else if endsPlain inFlow c then finish
      else plain inFlow indent steps (ch :: (gap.fold.reverse ++ done)) {} c.skip

/-- What becomes of the line breaks at the end of a block scalar. -/
inductive Chomping where
  | strip
  | clip
  | keep
  deriving DecidableEq

/-- The sign of a chomping. -/
def chomping? (c : Cursor) : Option Chomping :=
  if c.sees '+' then some .keep else if c.sees '-' then some .strip else none

/-- The digit that gives the indentation of a block scalar. -/
def indentation? (c : Cursor) : Except Break (Option Nat) :=
  match c.head? with
  | some ch =>
    if ch = '0' then .error { problem := .zeroIndentation, context := some .blockScalar }
    else if ch.isDigit then .ok (some (ch.toNat - 0x30))
    else .ok none
  | none => .ok none

/-- The marks after the indicator of a block scalar, in either order. -/
def blockMarks (c : Cursor) : Except Break (Chomping × Option Nat × Cursor) :=
  match chomping? c with
  | some chomping => do
    let c := c.skip
    match ← indentation? c with
    | some n => return (chomping, some n, c.skip)
    | none => return (chomping, none, c)
  | none => do
    match ← indentation? c with
    | none => return (.clip, none, c)
    | some n =>
      let c := c.skip
      match chomping? c with
      | some chomping => return (chomping, some n, c.skip)
      | none => return (.clip, some n, c)

/-- Empty lines of a block scalar, up to the indentation or, where it is not known, as far as
they go. Gives the breaks, the widest indentation met, and the place. -/
def emptyLines (indent : Option Nat) :
    Nat → List Char → Nat → Cursor → Except Break (List Char × Nat × Cursor)
  | 0, breaks, widest, c => .ok (breaks, widest, c)
  | steps + 1, breaks, widest, c =>
    let room := match indent with
      | some n => n - c.column
      | none => c.rest.length
    let spaces := ((c.rest.take room).takeWhile (· = ' ')).length
    let c := c.skip spaces
    let widest := max widest c.column
    let short : Bool := match indent with
      | some n => c.column < n
      | none => true
    if short && c.sees '\t' then
      .error { problem := .tabForIndentation, context := some .blockScalar }
    else if c.seesBreak then
      let (text, c) := c.takeBreak
      emptyLines indent steps (breaks ++ text) widest c
    else .ok (breaks, widest, c)

/-- The text of a block scalar so far: `first` is the break after the last line, `more` are the
empty lines after it. -/
structure Block where
  done : List Char
  first : List Char
  more : List Char
  /-- The last line begins with a blank. -/
  blankLed : Bool

/-- The breaks between two lines of a block scalar. Between folded lines that do not begin with a
blank, a single break is a space. -/
def Block.join (folds : Bool) (b : Block) (blankNext : Bool) : List Char :=
  if folds && b.first.head? = some '\n' && !b.blankLed && !blankNext then
    if b.more.isEmpty then [' '] else b.more
  else b.first ++ b.more

/-- The lines of a block scalar. -/
def blockLines (folds : Bool) (indent : Nat) : Nat → Block → Cursor → Except Break (Block × Cursor)
  | 0, b, c => .ok (b, c)
  | steps + 1, b, c =>
    if c.column = indent && !c.rest.isEmpty then do
      let blank := c.seesBlank
      let joined := b.join folds blank
      let (line, c) := c.span fun _ => true
      let (first, c) := c.takeBreak
      let (more, _, c) ← emptyLines (some indent) c.rest.length [] 0 c
      blockLines folds indent steps
        { done := b.done ++ joined ++ line, first, more, blankLed := blank } c
    else .ok (b, c)

/-- A block scalar after its indicator, in a collection of some indentation. -/
def block (folds : Bool) (outer : Int) (c : Cursor) : Except Break (List Char × Cursor) := do
  let (chomping, marked, c) ← blockMarks c
  let c ← c.passLineEnd .blockScalar
  let given := marked.map fun n => n + outer.toNat
  let steps := c.rest.length
  let (more, widest, c) ← emptyLines given steps [] 0 c
  let indent := given.getD (max (max widest (outer + 1).toNat) 1)
  let (b, c) ←
    blockLines folds indent (steps + 1) { done := [], first := [], more, blankLed := false } c
  return (b.done ++ (match chomping with
    | .strip => []
    | .clip => b.first
    | .keep => b.first ++ b.more), c)

end Content

end ResourceTree.Yaml
