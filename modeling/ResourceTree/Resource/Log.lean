import ResourceTree.Instant

/-!
# Log lines

A line of output of a pod, and its text without terminal escape sequences.
-/

namespace ResourceTree
set_option autoImplicit false

structure LogLine where
  timestamp : Instant
  container : String
  /-- The text as it came, escape sequences included. -/
  text : String
  deriving DecidableEq, Repr

namespace LogLine

/-- Where a reader of terminal output stands. -/
inductive Escape where
  /-- In plain text. -/
  | plain
  /-- Behind an escape character. -/
  | started
  /-- In a control sequence, which ends at a character from `@` to `~`. -/
  | control
  /-- In a command string, which ends at a bell or at an escape character before a backslash. -/
  | command

def escapeChar : Char := '\x1b'

def bell : Char := '\x07'

/-- The characters outside escape sequences. -/
def stripFrom : Escape → List Char → List Char
  | _, [] => []
  | .plain, c :: rest =>
    if c = escapeChar then stripFrom .started rest else c :: stripFrom .plain rest
  | .started, c :: rest =>
    if c = '[' then stripFrom .control rest
    else if c = ']' then stripFrom .command rest
    else stripFrom .plain rest
  | .control, c :: rest =>
    if '@' ≤ c ∧ c ≤ '~' then stripFrom .plain rest else stripFrom .control rest
  | .command, [_] => []
  | .command, c :: next :: rest =>
    if c = bell then stripFrom .plain (next :: rest)
    else if c = escapeChar ∧ next = '\\' then stripFrom .plain rest
    else stripFrom .command (next :: rest)

/-- A text without its escape sequences. -/
def strip (s : String) : String :=
  String.ofList (stripFrom .plain s.toList)

/-- The text of a line without its escape sequences. -/
def plainText (line : LogLine) : String := strip line.text

end LogLine

end ResourceTree
