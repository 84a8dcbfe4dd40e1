import ResourceTree.Yaml.Content

/-!
# YAML tokens

A text is cut into tokens before nodes are made of them. Indentation opens and closes block
collections. Whether a scalar is the key of a mapping is only known at the colon behind it, so a
slot is left in front of whatever may turn out to be a key, and filled when the colon comes. Where
the text breaks, the last token is the break; nothing is given out behind a slot that was open
before the step that broke.
-/

namespace ResourceTree.Yaml
set_option autoImplicit false

inductive Token where
  | version (major minor : Nat)
  | tagHandle (handle : String) (start : Tag)
  | documentStart
  | documentEnd
  | blockSequence
  | blockMapping
  | blockEnd
  | openSequence
  | closeSequence
  | openMapping
  | closeMapping
  | dash
  | comma
  | key
  | value
  | aliasOf (name : String)
  | anchor (name : String)
  | tag (handle : String) (suffix : Tag)
  | scalar (style : Style) (text : String)
  | streamEnd
  | broken (b : Break)
  deriving DecidableEq, Repr

/-- A token, or the slot in front of what may be a key with the tokens that came to fill it. -/
inductive Item where
  | token (t : Token)
  | slot (id : Nat) (filling : List Token)

/-- What may be a key: its slot and where it begins. -/
structure Candidate where
  slot : Nat
  /-- Nothing else can stand at this place. -/
  required : Bool
  index : Nat
  line : Nat
  column : Nat

/-- A text part way through. -/
structure Scan where
  cursor : Cursor
  /-- The column of the innermost block collection. -/
  indent : Int
  /-- The columns of the collections around it. -/
  outer : List Int
  /-- Whether a key may begin at the cursor. -/
  keyAllowed : Bool
  /-- The candidates of the brackets that are open, the innermost first, and of the block. -/
  candidates : List (Option Candidate)
  /-- The items so far, the latest first. -/
  items : List Item
  slots : Nat

namespace Scan

def inFlow (s : Scan) : Bool := 1 < s.candidates.length

def emit (t : Token) (s : Scan) : Scan := { s with items := .token t :: s.items }

/-- The token at the cursor, which is passed. -/
def emitPassing (t : Token) (count : Nat) (s : Scan) : Scan :=
  { s.emit t with cursor := s.cursor.skip count }

/-- A token whose content has been read up to some place. -/
def emitUpTo (t : Token) (c : Cursor) (s : Scan) : Scan := { s.emit t with cursor := c }

def noColon : Break := { problem := .noColon, context := some .simpleKey }

/-- Gives up a candidate. One that had to be a key is a fault. -/
def abandon : Option Candidate → Except Break (Option Candidate)
  | some k => if k.required then .error noColon else .ok none
  | none => .ok none

/-- Gives up the candidate of the innermost brackets. -/
def dropCandidate (s : Scan) : Except Break Scan :=
  match s.candidates with
  | [] => .ok s
  | k :: rest => do return { s with candidates := (← abandon k) :: rest }

/-- A key ends on the line on which it begins and is at most this long. -/
def keyLimit : Nat := 1024

/-- Gives up the candidates that are too far back. -/
def dropStale (s : Scan) : Except Break Scan := do
  let stale (k : Candidate) : Bool :=
    k.line < s.cursor.line || k.index + keyLimit < s.cursor.index
  let candidates ← s.candidates.mapM fun k =>
    if k.any stale then abandon k else .ok k
  return { s with candidates }

/-- Notes that a key may begin here. -/
def noteCandidate (s : Scan) : Except Break Scan := do
  if s.keyAllowed then
    let s ← s.dropCandidate
    let k : Candidate :=
      { slot := s.slots, required := !s.inFlow && s.indent = s.cursor.column
        index := s.cursor.index, line := s.cursor.line, column := s.cursor.column }
    return { s with candidates := some k :: s.candidates.drop 1
                    items := .slot s.slots [] :: s.items, slots := s.slots + 1 }
  else return s

/-- Opens a block collection at a column that lies further in. -/
def indentTo (column : Nat) (s : Scan) : Scan × Bool :=
  if !s.inFlow && s.indent < column then
    ({ s with indent := column, outer := s.indent :: s.outer }, true)
  else (s, false)

/-- Closes block collections out of a list of outer columns, down to a column. -/
def unindentFrom (column : Int) (s : Scan) : List Int → Scan
  | [] => s
  | i :: outer =>
    if column < s.indent then unindentFrom column { s.emit .blockEnd with indent := i, outer } outer
    else s

/-- Closes the block collections that lie further in than a column. -/
def unindentTo (column : Int) (s : Scan) : Scan :=
  if s.inFlow then s else unindentFrom column s s.outer

/-- Fills a slot. -/
def fill (slot : Nat) (filling : List Token) (s : Scan) : Scan :=
  { s with items := s.items.map fun
      | .slot id f => if id = slot then .slot id filling else .slot id f
      | i => i }

/-- Passes blanks, comments and line breaks, and byte order marks at the beginning of lines. A tab
is no indentation where a key may begin, and on a new line of a block one may. -/
def passGap : Nat → Scan → Scan
  | 0, s => s
  | steps + 1, s =>
    let c := if s.cursor.column = 0 && s.cursor.sees '\ufeff' then s.cursor.skip else s.cursor
    let c := c.pass fun ch => ch = ' ' || (ch = '\t' && (s.inFlow || !s.keyAllowed))
    let c := if c.sees '#' then c.pass fun _ => true else c
    if c.seesBreak then
      passGap steps
        { s with cursor := c.takeBreak.2, keyAllowed := s.keyAllowed || !s.inFlow }
    else { s with cursor := c }

/-- The name after an anchor or alias indicator. -/
def anchorName (context : Context) (c : Cursor) : Except Break (String × Cursor) :=
  let (name, c) := c.skip.span isNameChar
  let ends : Bool := c.seesGap || c.head?.any fun ch => "?:,]\x7d%@`".toList.contains ch
  if name.isEmpty || !ends then .error { problem := .noAnchorName, context }
  else .ok (String.ofList name, c)

/-- Characters of a tag; inside angle brackets and directives some more are allowed. -/
def isTagChar (all : Bool) (ch : Char) : Bool :=
  isNameChar ch || ";/?:@&=+$.!~*'()%".toList.contains ch || (all && ",[]".toList.contains ch)

/-- The number of bytes in which a character is written, by the first of them. -/
def octetCount? (b : Nat) : Option Nat :=
  if b < 0x80 then some 1
  else if 0xC0 ≤ b && b < 0xE0 then some 2
  else if 0xE0 ≤ b && b < 0xF0 then some 3
  else if 0xF0 ≤ b && b < 0xF8 then some 4
  else none

/-- The bytes of tag text, percent escapes resolved. Escapes spell the bytes of characters, of
which `due` more must follow. -/
def tagBytes (context : Context) (due : Nat) : List Char → Except Break Tag
  | '%' :: a :: b :: rest =>
    match Number.digitsValue? 16 [a, b], due with
    | none, _ => .error { problem := .badTagEscape, context }
    | some n, 0 => match octetCount? n with
      | none => .error { problem := .badLeadingOctet, context }
      | some count => do return UInt8.ofNat n :: (← tagBytes context (count - 1) rest)
    | some n, due + 1 =>
      if 0x80 ≤ n && n < 0xC0 then do
        return UInt8.ofNat n :: (← tagBytes context due rest)
      else .error { problem := .badTrailingOctet, context }
  | ch :: rest =>
    if ch = '%' || 0 < due then .error { problem := .badTagEscape, context }
    else do return ch.toString.toUTF8.toList ++ (← tagBytes context 0 rest)
  | [] => if 0 < due then .error { problem := .badTagEscape, context } else .ok []

/-- A tag ends before the first zero byte. -/
def tagOfBytes (bytes : List UInt8) : Tag := bytes.takeWhile (· ≠ 0)

/-- The text of a tag after what has been taken for its handle. -/
def tagText (all : Bool) (context : Context) (before : List Char) (c : Cursor) :
    Except Break (Tag × Cursor) := do
  let (text, c) := c.span (isTagChar all)
  let bytes ← tagBytes context 0 text
  if before.isEmpty && text.isEmpty then .error { problem := .noTagText, context }
  else return (tagOfBytes (Tag.ofText (String.ofList (before.drop 1)) ++ bytes), c)

/-- A tag handle: an exclamation mark, perhaps a name, perhaps a second mark. -/
def tagHandle (c : Cursor) : List Char × Cursor :=
  let (name, c) := c.skip.span isNameChar
  if c.sees '!' then ('!' :: name ++ ['!'], c.skip) else ('!' :: name, c)

/-- A tag from its indicator on. -/
def tag (inFlow : Bool) (c : Cursor) : Except Break (Token × Cursor) := do
  let (t, c) ←
    if c.sees '<' 1 then do
      let (suffix, c) ← tagText true .tagContent [] (c.skip 2)
      if c.sees '>' then pure (Token.tag "" suffix, c.skip)
      else .error { problem := .noTagEnd, context := some .tag }
    else
      let (handle, c') := tagHandle c
      if 1 < handle.length && handle.getLast? = some '!' then do
        let (suffix, c) ← tagText false .tagContent [] c'
        pure (Token.tag (String.ofList handle) suffix, c)
      else do
        let (suffix, c) ← tagText false .tagContent handle c'
        pure (if suffix = [] then Token.tag "" [Tag.sign] else Token.tag "!" suffix, c)
  if c.seesGap || (inFlow && c.sees ',') then return (t, c)
  else .error { problem := .noBlankOrBreak, context := some .tag }

/-- A part of a version number. -/
def versionPart (c : Cursor) : Except Break (Nat × Cursor) :=
  let (digits, c) := c.span Char.isDigit
  if 9 < digits.length then .error { problem := .longVersion, context := some .versionDirective }
  else match Number.digitsValue? 10 digits with
    | some n => .ok (n, c)
    | none => .error { problem := .noVersion, context := some .versionDirective }

/-- A directive from its percent sign on. -/
def directive (c : Cursor) : Except Break (Token × Cursor) := do
  let (name, c) := c.skip.span isNameChar
  if name.isEmpty then .error { problem := .noDirectiveName, context := some .directive }
  else if !c.seesGap then .error { problem := .badDirectiveName, context := some .directive }
  else if name = "YAML".toList then
    let (major, c) ← versionPart (c.pass isBlank)
    if !c.sees '.' then
      .error { problem := .noVersionPoint, context := some .versionDirective }
    else
      let (minor, c) ← versionPart c.skip
      return (.version major minor, ← c.passLineEnd .directive)
  else if name = "TAG".toList then
    let c := c.pass isBlank
    if !c.sees '!' then .error { problem := .noExclamation, context := some .handleStart }
    else
      let (handle, c) := tagHandle c
      if 1 < handle.length && handle.getLast? ≠ some '!' then
        .error { problem := .noExclamation, context := some .handleEnd }
      else if !c.seesBlank then .error { problem := .noBlank, context := some .tagDirective }
      else
        let (start, c) ← tagText true .tagOfDirective [] (c.pass isBlank)
        if !c.seesGap then .error { problem := .noBlankOrBreak, context := some .tagDirective }
        else return (.tagHandle (String.ofList handle) start, ← c.passLineEnd .directive)
  else .error { problem := .unknownDirective, context := some .directive }

/-- A directive or a mark between documents closes all block collections. -/
def leaveBlocks (s : Scan) : Except Break Scan := do
  return { ← (s.unindentTo (-1)).dropCandidate with keyAllowed := false }

/-- The end of the text, which ends its last line. -/
def finish (s : Scan) : Except Break Scan := do
  let c := s.cursor
  let s := if c.column = 0 then s else { s with cursor := c.nextLine 0 }
  return (← s.leaveBlocks).emit .streamEnd

/-- An opening bracket. -/
def openFlow (t : Token) (s : Scan) : Except Break Scan := do
  let s ← s.noteCandidate
  return ({ s with candidates := none :: s.candidates, keyAllowed := true }).emitPassing t 1

/-- A closing bracket. -/
def closeFlow (t : Token) (s : Scan) : Except Break Scan := do
  let s ← s.dropCandidate
  let candidates := if s.inFlow then s.candidates.drop 1 else s.candidates
  return ({ s with candidates, keyAllowed := false }).emitPassing t 1

/-- Opens a block collection at the cursor where the indentation asks for one. -/
def openBlock (t : Token) (misplaced : Problem) (s : Scan) : Except Break Scan :=
  if s.inFlow then .ok s
  else if !s.keyAllowed then .error { problem := misplaced }
  else match s.indentTo s.cursor.column with
    | (s, true) => .ok (s.emit t)
    | (s, false) => .ok s

/-- The dash of a block sequence. -/
def dash (s : Scan) : Except Break Scan := do
  let s ← (← s.openBlock .blockSequence .blockEntryHere).dropCandidate
  return ({ s with keyAllowed := true }).emitPassing .dash 1

/-- The question mark before a key. -/
def key (s : Scan) : Except Break Scan := do
  let s ← (← s.openBlock .blockMapping .keyHere).dropCandidate
  return ({ s with keyAllowed := !s.inFlow }).emitPassing .key 1

/-- The colon before a value: a candidate becomes a key. -/
def value (s : Scan) : Except Break Scan := do
  match s.candidates with
  | some k :: rest =>
    let s := { s with candidates := none :: rest, keyAllowed := false }
    let (s, opened) := s.indentTo k.column
    return (s.fill k.slot (if opened then [.blockMapping, .key] else [.key])).emitPassing .value 1
  | _ =>
    let s ← s.openBlock .blockMapping .valueHere
    return ({ s with keyAllowed := !s.inFlow }).emitPassing .value 1

/-- Content that may be a key. -/
def content (read : Cursor → Except Break (Token × Cursor)) (s : Scan) : Except Break Scan := do
  let s ← s.noteCandidate
  let (t, c) ← read s.cursor
  return ({ s with keyAllowed := false }).emitUpTo t c

def quoted (double : Bool) (style : Style) (c : Cursor) : Except Break (Token × Cursor) := do
  let (text, c) ← Content.quoted double c.rest.length [] c.skip
  return (.scalar style (String.ofList text), c)

/-- A plain scalar; after a line break a key may follow it. -/
def plain (s : Scan) : Except Break Scan := do
  let s ← s.noteCandidate
  let (text, broken, c) ←
    Content.plain s.inFlow (s.indent + 1) (2 * s.cursor.rest.length + 1) [] {} s.cursor
  return ({ s with keyAllowed := broken }).emitUpTo (.scalar .plain (String.ofList text)) c

def block (folds : Bool) (style : Style) (s : Scan) : Except Break Scan := do
  let s ← s.dropCandidate
  let (text, c) ← Content.block folds s.indent s.cursor.skip
  return ({ s with keyAllowed := true }).emitUpTo (.scalar style (String.ofList text)) c

/-- The characters that cannot begin a plain scalar. -/
def indicators : List Char := "-?:,[]\x7b\x7d#&*!|>'\"%@`".toList

/-- Whether a plain scalar begins at the cursor. -/
def beginsPlain (s : Scan) : Bool :=
  let c := s.cursor
  !(c.seesGap || c.head?.any indicators.contains)
    || (c.sees '-' && !c.seesBlank 1)
    || (!s.inFlow && (c.sees '?' || c.sees ':') && !c.seesGap 1)

/-- The token at the cursor, which stands at no gap. -/
def token (ch : Char) (s : Scan) : Except Break Scan :=
  let c := s.cursor
  let gapOrFlow : Bool := s.inFlow || c.seesGap 1
  if c.column = 0 && ch = '%' then do
    let s ← s.leaveBlocks
    let (t, c) ← directive s.cursor
    return s.emitUpTo t c
  else if c.seesDocumentMark '-' then do return (← s.leaveBlocks).emitPassing .documentStart 3
  else if c.seesDocumentMark '.' then do return (← s.leaveBlocks).emitPassing .documentEnd 3
  else if ch = '[' then s.openFlow .openSequence
  else if ch = '\x7b' then s.openFlow .openMapping
  else if ch = ']' then s.closeFlow .closeSequence
  else if ch = '\x7d' then s.closeFlow .closeMapping
  else if ch = ',' then do
    let s ← s.dropCandidate
    return ({ s with keyAllowed := true }).emitPassing .comma 1
  else if ch = '-' && c.seesGap 1 then s.dash
  else if ch = '?' && gapOrFlow then s.key
  else if ch = ':' && gapOrFlow then s.value
  else if ch = '*' then s.content fun c => do
    let (name, c) ← anchorName .aliasOf c
    return (.aliasOf name, c)
  else if ch = '&' then s.content fun c => do
    let (name, c) ← anchorName .anchor c
    return (.anchor name, c)
  else if ch = '!' then s.content (tag s.inFlow)
  else if ch = '|' && !s.inFlow then s.block false .literal
  else if ch = '>' && !s.inFlow then s.block true .folded
  else if ch = '\'' then s.content (quoted false .singleQuoted)
  else if ch = '"' then s.content (quoted true .doubleQuoted)
  else if s.beginsPlain then s.plain
  else .error { problem := .noToken, context := some .nextToken }

/-- The next token or the end; the flag says that it was the end. Candidates that the token leaves
too far back are given up before it is given out. -/
def next (s : Scan) : Except Break (Scan × Bool) := do
  let s := s.passGap (s.cursor.rest.length + 1)
  let s ← s.dropStale
  let s := s.unindentTo s.cursor.column
  match s.cursor.head? with
  | none => return (← (← s.finish).dropStale, true)
  | some ch => return (← (← s.token ch).dropStale, false)

/-- The tokens of items, in order. -/
def tokensOf (items : List Item) : List Token :=
  items.flatMap fun
    | .token t => [t]
    | .slot _ filling => filling

/-- The tokens of a text that breaks behind a place: those in front of every candidate. -/
def brokenTokens (b : Break) (s : Scan) : List Token :=
  let isOpen : Item → Bool
    | .slot id _ => s.candidates.any fun k => k.any (·.slot = id)
    | .token _ => false
  tokensOf (s.items.reverse.takeWhile fun i => !isOpen i) ++ [.broken b]

/-- The tokens from a place on. -/
def run : Nat → Scan → List Token
  | 0, s => tokensOf s.items.reverse
  | steps + 1, s => match s.next with
    | .error b => s.brokenTokens b
    | .ok (s, true) => tokensOf s.items.reverse
    | .ok (s, false) => run steps s

end Scan

namespace Token

/-- Characters that documents may hold. -/
def isAllowed (c : Char) : Bool :=
  let n := c.toNat
  n = 0x09 || n = 0x0A || n = 0x0D || (0x20 ≤ n && n ≤ 0x7E) || n = 0x85
    || (0xA0 ≤ n && n ≤ 0xD7FF) || (0xE000 ≤ n && n ≤ 0xFFFD) || 0x10000 ≤ n

/-- The bytes in front of the first character that is not allowed. -/
def forbidden? (offset : Nat) : List Char → Option Nat
  | [] => none
  | c :: rest => if isAllowed c then forbidden? (offset + c.utf8Size) rest else some offset

/-- The tokens of a text. -/
def ofText (s : String) : List Token :=
  let chars := s.toList
  match forbidden? 0 chars with
  | some offset => [.broken { problem := .forbiddenCharacter offset }]
  | none =>
    let start : Scan :=
      { cursor := .start chars, indent := -1, outer := [], keyAllowed := true
        candidates := [none], items := [], slots := 0 }
    Scan.run (chars.length + 1) start

end Token

end ResourceTree.Yaml
