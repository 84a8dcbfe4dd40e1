import ResourceTree.Text.Blank
import ResourceTree.Text.Composed
import ResourceTree.Text.Mark
import ResourceTree.Url.Domain.Direction
import ResourceTree.Url.Domain.Joining
import ResourceTree.Url.Domain.Replacement
import ResourceTree.Url.Punycode

/-!
# Domain names

A name in any script, brought to the one spelling in lower case and in ASCII that all its
spellings share. A label that holds other characters is written by the code of its characters
behind a mark; a label that comes with the mark must be the code of such a label.
-/

namespace ResourceTree.Url.Domain
set_option autoImplicit false

/-- The ASCII characters that no name holds. -/
def isForbidden (c : Char) : Bool :=
  c.toNat ≤ 0x20 || c.toNat = 0x7F || "%#/:<>?@[\\]^|".toList.contains c

def isAscii (s : List Char) : Bool := s.all (·.toNat < 0x80)

/-- The characters of a name, each replaced and all composed, unless one is refused. -/
def plain? (s : List Char) : Option (List Char) := do
  let replaced ← s.mapM replacement?
  let composed := Text.Composed.compose replaced.flatten
  if composed.any isForbidden then none else some composed

/-- The mark of a label that is spelled in ASCII. -/
def spelledMark : List Char := ['x', 'n', '-', '-']

/-- The greatest length of a spelling. -/
def spellingLimit : Nat := 2000

/-- The greatest length of a label that is to be spelled. -/
def labelLimit : Nat := 1000

/-- The characters of a label. One that is spelled in ASCII must spell plain characters, others
than ASCII among them. -/
def characters? (label : List Char) : Option (List Char) :=
  if spelledMark.isPrefixOf label then do
    let spelling := label.drop spelledMark.length
    if !isAscii spelling || label.getLast? = some '-' || spellingLimit < spelling.length then none
    else
      let characters ← Punycode.decode spelling
      if plain? characters = some characters then some characters else none
  else some label

/-- Whether characters may stand together as a label. ASCII labels may hold what they like. -/
def isLabel (characters : List Char) : Bool :=
  isAscii characters
    || (!(characters.head?.any Text.isMark) && joinersStand [] characters
      && characters.length ≤ labelLimit)

/-- A label in ASCII. -/
def spell (characters : List Char) : List Char :=
  if isAscii characters then characters else spelledMark ++ Punycode.encode characters

/-- Whether a name is in lower case and in ASCII already, and no label of it is a spelling. -/
def isPassedThrough (s : List Char) : Bool :=
  s.all (fun c => c.isLower || c.isDigit || c = '-' || c = '.')
    && !(Text.splitOn (· = '.') s).any spelledMark.isPrefixOf

/-- A domain name in ASCII. -/
def toAscii? (s : List Char) : Option (List Char) :=
  if isPassedThrough s then some s
  else do
    let labels ← (Text.splitOn (· = '.') (← plain? s)).mapM characters?
    if labels.all isLabel && labelsReadAlike labels then
      return ['.'].intercalate (labels.map spell)
    else none

end ResourceTree.Url.Domain
