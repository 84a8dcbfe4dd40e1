import ResourceTree.Url.Basic
import ResourceTree.Url.Escape

/-!
# Path segments

Paths are built one segment after the other. A segment of one point stays where it is, one of two
points leads back by one segment; either may be spelled with escapes.
-/

namespace ResourceTree.Url
set_option autoImplicit false

/-- The number of points that a text consists of, with or without escapes. -/
def pointCount? : List Char → Option Nat
  | [] => some 0
  | '.' :: rest => (pointCount? rest).map (· + 1)
  | '%' :: '2' :: c :: rest =>
    if c = 'e' ∨ c = 'E' then (pointCount? rest).map (· + 1) else none
  | _ => none

def isHere (segment : String) : Bool := pointCount? segment.toList = some 1

def isBack (segment : String) : Bool := pointCount? segment.toList = some 2

/-- A letter followed by a colon or a bar, as disks are named. -/
def isDisk (segment : String) : Bool :=
  match segment.toList with
  | [letter, mark] => letter.isAlpha && (mark = ':' || mark = '|')
  | _ => false

/-- The name of a disk in its usual form, with a colon. -/
def diskName (segment : String) : String := String.ofList (segment.toList.take 1) ++ ":"

/-- A disk in its usual form with more characters behind it: the two apart. -/
def splitDisk? : List Char → Option (String × List Char)
  | letter :: ':' :: c :: rest =>
    if letter.isAlpha then some (String.ofList [letter, ':'], c :: rest) else none
  | _ => none

/-- A segment as it is read. A disk that is set apart from what follows it comes in two parts. -/
structure Segment where
  text : String
  parts : Option (String × String) := none

namespace Path

/-- A path part way through its reading: its segments, and whether a disk was found at its
start. -/
structure Progress where
  names : List String := []
  hasDisk : Bool := false

/-- One segment less; the name of a disk stays. -/
def shorten (names : List String) : List String :=
  if names.getLast?.any isDisk then names else names.dropLast

/-- One segment more. One that leads somewhere leaves an empty segment behind when it is the
last. The first one may be in parts, and name a disk where `mayNameDisk` says so. -/
def take (mayNameDisk : Bool) (p : Progress) (segment : Segment) (isLast : Bool) : Progress :=
  let text := segment.text
  match if p.names.isEmpty then segment.parts else none with
  | some (disk, behind) => { p with names := [disk, behind] }
  | none =>
    if isBack text || isHere text then
      let names := if isBack text then shorten p.names else p.names
      { p with names := if isLast then names ++ [""] else names }
    else if mayNameDisk && p.names.isEmpty && isDisk text then
      { names := [diskName text], hasDisk := true }
    else { p with names := p.names ++ [text] }

/-- The paths of files do not begin with empty segments. -/
def settle (family : Family) (names : List String) : List String :=
  if family = .file then
    match names.dropWhile (· = "") with
    | [] => [""]
    | kept => kept
  else names

/-- The path with the segments of a text behind it. -/
def takeAll (mayNameDisk : Bool) : Progress → List Segment → Progress
  | p, [] => p
  | p, [segment] => take mayNameDisk p segment true
  | p, segment :: rest => takeAll mayNameDisk (take mayNameDisk p segment false) rest

/-- Tabs and line breaks, which URLs pass over. -/
def isPassedOver (c : Char) : Bool := c = '\t' || c = '\n' || c = '\r'

/-- The characters of a text that are not passed over. -/
def relevant (s : List Char) : List Char := s.filter (!isPassedOver ·)

/-- The text behind its first `count` characters that are not passed over. -/
def dropRelevant : Nat → List Char → List Char
  | 0, s => s
  | _, [] => []
  | count + 1, c :: rest => dropRelevant (if isPassedOver c then count + 1 else count) rest

/-- Whether something is passed over right before the last `count` characters that are not. -/
def hasGapBefore (s : List Char) (count : Nat) : Bool :=
  (dropRelevant count s.reverse).head?.any isPassedOver

/-- One segment of a file's path, with the escapes that it needs. `isApart` tells whether something
is passed over right before so many characters at the end of the segment. -/
def segmentOf (set : EscapeSet) (isApart : Nat → Bool) (s : List Char) : Segment :=
  { text := escape set s
    parts := (splitDisk? s).bind fun (disk, behind) =>
      if isApart behind.length then some (disk, escape set behind) else none }

/-- Appends one segment, unless it is one or two points. -/
def append (family : Family) (names : List String) (segment : String) : List String :=
  if segment = "." ∨ segment = ".." then names
  else
    let set := if family.isSpecial then EscapeSet.specialSegment else .segment
    let names := if names = [""] then [] else names
    let s := segment.toList
    let segment : Segment := match family with
      | .file => segmentOf set (hasGapBefore s) (relevant s)
      | _ => { text := escape set (relevant s) }
    settle family (take (family = .file) { names } segment true).names

/-- An empty segment at the end gives way to what is appended. -/
def dropEmptyEnd (names : List String) : List String :=
  if 1 < names.length ∧ names.getLast? = some "" then names.dropLast else names

end Path

/-- The URL with segments after its path. -/
def append (u : Url) (segments : List String) : Url :=
  match u.path with
  | .flat _ => u
  | .segments names =>
    let names := segments.foldl (Path.append u.family) (Path.dropEmptyEnd names)
    { u with path := .segments names }

end ResourceTree.Url
