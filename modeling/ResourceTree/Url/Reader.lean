import ResourceTree.Url.Host
import ResourceTree.Url.Segments

/-!
# Reading a URL

Controls and spaces around the text and tabs and line breaks within it are passed over. The scheme
decides on the rest: whether a host must follow, whether a reverse solidus counts as a solidus, and
which characters are escaped.
-/

namespace ResourceTree.Url
set_option autoImplicit false

/-- A text without the controls and spaces around it. -/
def trimmed (s : String) : List Char :=
  let isMargin := fun (c : Char) => c.toNat ≤ 0x20
  ((s.toList.dropWhile isMargin).reverse.dropWhile isMargin).reverse

def isSchemeChar (c : Char) : Bool := c.isAlphanum || c = '+' || c = '-' || c = '.'

/-- The scheme in lower case, and what follows its colon. -/
def splitScheme (s : List Char) : Option (String × List Char) :=
  let scheme := s.takeWhile isSchemeChar
  match scheme.head?, s.drop scheme.length with
  | some c, ':' :: rest =>
    if c.isAlpha then some ((String.ofList scheme).toLower, rest) else none
  | _, _ => none

/-- The text before the first character of a kind, and the text from there on. -/
def splitAt (stop : Char → Bool) (s : List Char) : List Char × List Char :=
  (s.takeWhile (!stop ·), s.dropWhile (!stop ·))

def Family.isSolidus (f : Family) (c : Char) : Bool := c = '/' || (f.isSpecial && c = '\\')

/-- The end of an authority. -/
def Family.endsAuthority (f : Family) (c : Char) : Bool := f.isSolidus c || c = '?' || c = '#'

/-- The text before the last at sign, and the text after it. -/
def splitUserinfo (s : List Char) : Option (List Char × List Char) :=
  let after := (s.reverse.takeWhile (· ≠ '@')).reverse
  if after.length < s.length then some (s.take (s.length - after.length - 1), after) else none

/-- User and password with escapes; an empty password is left out, and so is its colon. -/
def escapeUserinfo (s : List Char) : String :=
  let user := s.takeWhile (· ≠ ':')
  let password := s.drop (user.length + 1)
  escape .userinfo user ++ (if password.isEmpty then "" else ":" ++ escape .userinfo password)

/-- The characters up to a colon that is not between brackets. -/
def hostRun (inBrackets : Bool) : List Char → List Char
  | [] => []
  | c :: rest =>
    if c = ':' ∧ !inBrackets then []
    else c :: hostRun (if c = '[' then true else if c = ']' then false else inBrackets) rest

/-- The number at the end of an authority; the default of the scheme is left out. -/
def readPortNumber (scheme : String) (s : List Char) : Except Fault (Option Nat) :=
  match s with
  | [] => .ok none
  | digits => match Number.digitsValue? 10 digits with
    | some n =>
      if 65535 < n then .error .badPortNumber
      else .ok (if defaultPortNumber? scheme = some n then none else some n)
    | none => .error .badPortNumber

/-- An authority, and the text after it. -/
def Authority.read (scheme : String) (s : List Char) : Except Fault (Authority × List Char) := do
  let family := Family.ofScheme scheme
  let (text, after) := splitAt family.endsAuthority s
  let (user, rest) ← match splitUserinfo text with
    | none => pure ("", text)
    | some ([], rest) =>
      -- nothing but an at sign
      if rest.isEmpty ∧ !after.isEmpty then throw .emptyHost else pure ("", rest)
    | some (user, rest) => pure (escapeUserinfo user, rest)
  let name := hostRun false rest
  let tail := rest.drop name.length
  if name.isEmpty ∧ (family.isSpecial ∨ !tail.isEmpty) then throw .emptyHost
  let host ← Url.host family name
  -- a reverse solidus ends the number in any URL
  let (number, more) := splitAt (· = '\\') (tail.drop 1)
  let portNumber ← readPortNumber scheme number
  if name.isEmpty ∧ user ≠ "" then throw .emptyHost
  return ({ userinfo := user, host, portNumber }, more ++ after)

/-- A path up to the query, one solidus before each segment. -/
def pathNames (family : Family) (text : List Char) : List String :=
  match text with
  | [] => if family.isSpecial then [""] else []
  | c :: rest =>
    let rest := if family.isSolidus c then rest else c :: rest
    (Path.takeAll false {} ((Text.splitOn family.isSolidus rest).map ({ text := escape .path · })))
      |>.names

/-- Query and fragment, each after its mark. -/
def queryAndFragment (family : Family) (s : List Char) : Option String × Option String :=
  let (text, after) := splitAt (· = '#') s
  let set := if family.isSpecial then EscapeSet.specialQuery else EscapeSet.query
  (match text with
    | '?' :: q => some (escape set q)
    | _ => none,
    after.tail?.map (escape .fragment))

/-- The URL of its parts. -/
def assemble (scheme : String) (authority : Option Authority) (rest : List Char) : Url :=
  let family := Family.ofScheme scheme
  let (text, after) := splitAt (fun c => c = '?' || c = '#') rest
  let (query, fragment) := queryAndFragment family after
  let path :=
    if authority.isSome || family.isSpecial || text.head? = some '/' then
      Path.segments (pathNames family text)
    else .flat (escape .controls text)
  { scheme, authority, path, query, fragment }

/-- The segments of a file's path. `isApart` tells whether something is passed over right before
so many characters at the end of the path. -/
def fileSegments (isApart : Nat → Bool) : List (List Char) → List Segment
  | [] => []
  | s :: more =>
    let after := (more.map (·.length + 1)).sum
    Path.segmentOf .path (fun count => isApart (count + after)) s :: fileSegments isApart more

/-- The path of a file. Its first segment may name a disk unless the text brings the solidus
before it and there is no host. -/
def filePath (hasHost : Bool) (isApart : Nat → Bool) (text : List Char) : Path.Progress :=
  let (isRooted, rest) := match text with
    | c :: rest => if Family.file.isSolidus c then (true, rest) else (false, text)
    | [] => (false, [])
  Path.takeAll (hasHost || !isRooted) {}
    (fileSegments isApart (Text.splitOn Family.file.isSolidus rest))

/-- The URL of a file on a host, which a disk does without. `text` is all of the URL's text. -/
def fileUrl (text : List Char) (host : String) (rest : List Char) : Url :=
  let (path, after) := splitAt (fun c => c = '?' || c = '#') rest
  let (query, fragment) := queryAndFragment .file after
  let p := filePath (host ≠ "") (fun count => Path.hasGapBefore text (count + after.length)) path
  { scheme := "file"
    authority := some { host := if p.hasDisk then "" else host }
    path := .segments (Path.settle .file p.names), query, fragment }

/-- The URL of a file: the host may be missing, and this computer has none. -/
def ofFile (text : List Char) (s : List Char) : Except Fault Url :=
  match s with
  | a :: b :: rest =>
    if Family.file.isSolidus a && Family.file.isSolidus b then
      let (name, after) := splitAt Family.file.endsAuthority rest
      if name.isEmpty ∨ isDisk (String.ofList name) then .ok (fileUrl text "" rest)
      else do
        let host ← Url.host .file name
        return fileUrl text (if host = "localhost" then "" else host) after
    else .ok (fileUrl text "" s)
  | s => .ok (fileUrl text "" s)

/-- The URL of a text. -/
def ofText (s : String) : Except Fault Url :=
  let text := trimmed s
  match splitScheme (Path.relevant text) with
  | none => .error .noScheme
  | some (scheme, rest) =>
    match Family.ofScheme scheme with
    | .file => ofFile text rest
    | .web => do
      let (a, rest) ← Authority.read scheme (rest.dropWhile Family.web.isSolidus)
      return assemble scheme (some a) rest
    | .general =>
      match rest with
      | '/' :: '/' :: rest => do
        let (a, rest) ← Authority.read scheme rest
        return assemble scheme (some a) rest
      | rest => .ok (assemble scheme none rest)

end ResourceTree.Url
