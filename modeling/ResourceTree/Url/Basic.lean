/-!
# Addresses of resources on a network

A URL in the normal form in which it is written: scheme, authority, path, query and fragment, each
part already spelled with the escapes that it needs.
-/

namespace ResourceTree
set_option autoImplicit false

namespace Url

/-- The schemes whose URLs have rules of their own. -/
inductive Family where
  /-- Files, whose host may be missing. -/
  | file
  /-- The schemes of the web, whose host may not be missing. -/
  | web
  | general
  deriving DecidableEq, Repr

namespace Family

def ofScheme (scheme : String) : Family :=
  if scheme = "file" then file
  else if ["http", "https", "ws", "wss", "ftp"].contains scheme then web
  else general

/-- A reverse solidus counts as a solidus, and there is always a path. -/
def isSpecial : Family → Bool
  | general => false
  | _ => true

end Family

/-- The number of the service that a scheme stands for when none is given. -/
def defaultPortNumber? (scheme : String) : Option Nat :=
  if scheme = "http" ∨ scheme = "ws" then some 80
  else if scheme = "https" ∨ scheme = "wss" then some 443
  else if scheme = "ftp" then some 21
  else none

/-- What stands between the two solidi and the path. -/
structure Authority where
  userinfo : String := ""
  host : String := ""
  portNumber : Option Nat := none
  deriving DecidableEq, Repr

inductive Path where
  /-- A path without structure, to which nothing can be appended. -/
  | flat (text : String)
  /-- Segments, each after a solidus. -/
  | segments (names : List String)
  deriving DecidableEq, Repr

end Url

structure Url where
  scheme : String
  authority : Option Url.Authority
  path : Url.Path
  query : Option String
  fragment : Option String
  deriving DecidableEq, Repr

namespace Url

def family (u : Url) : Family := .ofScheme u.scheme

def Authority.toText (a : Authority) : String :=
  (if a.userinfo = "" then "" else a.userinfo ++ "@") ++ a.host
    ++ (match a.portNumber with | some n => ":" ++ toString n | none => "")

def Path.toText : Path → String
  | flat text => text
  | segments names => String.join (names.map ("/" ++ ·))

/-- Segments without an authority are kept apart from two solidi that would start one. -/
def separator (u : Url) : String :=
  match u.authority, u.path with
  | none, .segments ("" :: _ :: _) => "/."
  | _, _ => ""

def toText (u : Url) : String :=
  u.scheme ++ ":" ++ (match u.authority with | some a => "//" ++ a.toText | none => "")
    ++ u.separator ++ u.path.toText
    ++ (match u.query with | some q => "?" ++ q | none => "")
    ++ (match u.fragment with | some f => "#" ++ f | none => "")

/-- Paths can be appended to the URL. -/
def isBase (u : Url) : Bool :=
  match u.path with
  | .segments (_ :: _) => true
  | .segments [] => u.authority.isSome
  | .flat _ => false

end Url

end ResourceTree
