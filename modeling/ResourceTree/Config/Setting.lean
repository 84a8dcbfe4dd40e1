import ResourceTree.Config.Basic
import ResourceTree.Failure
import ResourceTree.Number.DecimalText
import ResourceTree.Number.FloatText
import ResourceTree.Text.Blank
import ResourceTree.Url.Reader

/-!
# Settings by name

Each setting has a key, and is read and changed as a text. A text that does not fit the setting is
refused, and no setting changes another one.
-/

namespace ResourceTree
set_option autoImplicit false

/-- An edit of a configuration in place, which a failure ends where it stands. -/
abbrev Config.Edit := ExceptT Failure (StateM Config)

/-- Reads a value and then puts it into the configuration. -/
def Config.Edit.readThenPut {α : Type} (read : Except Failure α) (put : α → Config → Config) :
    Config.Edit Unit := do
  let x ← read
  modify (put x)

inductive Setting where
  | apiUrl
  | fluxNamespace
  | requestTimeoutSecs
  | direction
  | nodeWidth
  | nodeHeight
  | nodeSpacing
  | layerSpacing
  | excludedKinds
  | maxEvents
  | logBuffer
  | maxRetries
  | baseDelayMs
  | maxDelayMs
  deriving DecidableEq, Repr

namespace Setting

def all : List Setting :=
  [apiUrl, fluxNamespace, requestTimeoutSecs, direction, nodeWidth, nodeHeight, nodeSpacing,
    layerSpacing, excludedKinds, maxEvents, logBuffer, maxRetries, baseDelayMs, maxDelayMs]

def key : Setting → String
  | apiUrl => "apiUrl"
  | fluxNamespace => "fluxNamespace"
  | requestTimeoutSecs => "requestTimeoutSecs"
  | direction => "layout.direction"
  | nodeWidth => "layout.nodeWidth"
  | nodeHeight => "layout.nodeHeight"
  | nodeSpacing => "layout.nodeSpacing"
  | layerSpacing => "layout.layerSpacing"
  | excludedKinds => "layout.excludedKinds"
  | maxEvents => "events.maxEvents"
  | logBuffer => "logs.buffer"
  | maxRetries => "realtime.maxRetries"
  | baseDelayMs => "realtime.baseDelayMs"
  | maxDelayMs => "realtime.maxDelayMs"

def ofKey? (key : String) : Option Setting := all.find? (·.key = key)

/-- The text of a double. -/
def doubleText (x : Float) : String := Number.FloatStyle.plain.text x

/-- The text of a setting. -/
def get (c : Config) : Setting → String
  | apiUrl => c.apiUrl
  | fluxNamespace => c.fluxNamespace
  | requestTimeoutSecs => toString c.requestTimeoutSecs
  | direction => c.layout.direction.name
  | nodeWidth => doubleText c.layout.nodeWidth
  | nodeHeight => doubleText c.layout.nodeHeight
  | nodeSpacing => doubleText c.layout.nodeSpacing
  | layerSpacing => doubleText c.layout.layerSpacing
  | excludedKinds => ",".intercalate c.layout.excludedKinds
  | maxEvents => toString c.maxEvents
  | logBuffer => toString c.logBuffer
  | maxRetries => toString c.realtime.maxRetries
  | baseDelayMs => toString c.realtime.baseDelayMs
  | maxDelayMs => toString c.realtime.maxDelayMs

/-- The failure on account of a text that is no number. -/
def notNumber (s : Setting) (f : Number.NumberFault) : Failure :=
  { message := s.key ++ " must be a number", causes := [f.message] }

/-- The natural number that a setting is to have. -/
def natural (s : Setting) (bits : Nat) (value : String) : Except Failure Nat :=
  (Number.natural bits value).mapError s.notNumber

/-- The double that a setting is to have. -/
def double (s : Setting) (value : String) : Except Failure Float :=
  (Number.double value).mapError s.notNumber

/-- The names between commas, without blanks around them; empty ones do not count. -/
def names (value : String) : List String :=
  ((Text.splitOn (· = ',') value.toList).map (Text.trim ∘ String.ofList)).filter (· ≠ "")

/-- A URL, kept as it is given. -/
def url (value : String) : Except Failure String :=
  match Url.ofText value with
  | .ok _ => .ok value
  | .error f =>
    .error { message := "apiUrl is not a valid URL: " ++ value, causes := [f.message] }

/-- The direction that a word names. -/
def directionOf (value : String) : Except Failure Direction :=
  match Direction.ofWord? value with
  | some d => .ok d
  | none => .error { message := Direction.unknownMessage value }

/-- Changes a setting to what a text says. -/
def assign (value : String) (s : Setting) : Config.Edit Unit :=
  match s with
  | apiUrl => .readThenPut (url value) fun x c => { c with apiUrl := x }
  | fluxNamespace => .readThenPut (.ok value) fun x c => { c with fluxNamespace := x }
  | requestTimeoutSecs =>
    .readThenPut (s.natural 64 value) fun x c => { c with requestTimeoutSecs := x }
  | direction => .readThenPut (directionOf value) fun x c => { c with layout.direction := x }
  | nodeWidth => .readThenPut (s.double value) fun x c => { c with layout.nodeWidth := x }
  | nodeHeight => .readThenPut (s.double value) fun x c => { c with layout.nodeHeight := x }
  | nodeSpacing => .readThenPut (s.double value) fun x c => { c with layout.nodeSpacing := x }
  | layerSpacing => .readThenPut (s.double value) fun x c => { c with layout.layerSpacing := x }
  | excludedKinds =>
    .readThenPut (.ok (names value)) fun x c => { c with layout.excludedKinds := x }
  | maxEvents => .readThenPut (s.natural 64 value) fun x c => { c with maxEvents := x }
  | logBuffer => .readThenPut (s.natural 64 value) fun x c => { c with logBuffer := x }
  | maxRetries => .readThenPut (s.natural 32 value) fun x c => { c with realtime.maxRetries := x }
  | baseDelayMs => .readThenPut (s.natural 64 value) fun x c => { c with realtime.baseDelayMs := x }
  | maxDelayMs => .readThenPut (s.natural 64 value) fun x c => { c with realtime.maxDelayMs := x }

end Setting

namespace Config

/-- The setting of a key. -/
def setting (key : String) : Except Failure Setting :=
  match Setting.ofKey? key with
  | some s => .ok s
  | none => .error { message := "Unknown configuration key: " ++ key }

/-- The text of the setting of a key. -/
def get (c : Config) (key : String) : Except Failure String :=
  (setting key).map (Setting.get c)

/-- Changes the setting of a key. -/
def assign (key value : String) : Edit Unit := do
  let s ← setting key
  s.assign value

/-- What a change of the setting of a key comes to, and the configuration that it leaves. -/
def edit (c : Config) (key value : String) : Except Failure Unit × Config :=
  (assign key value).run.run c

/-- The configuration with the setting of a key changed. -/
def set (c : Config) (key value : String) : Except Failure Config :=
  match c.edit key value with
  | (.ok (), c) => .ok c
  | (.error f, _) => .error f

end Config

end ResourceTree
