import ResourceTree.Config.Basic
import ResourceTree.Yaml.Printer
import ResourceTree.Yaml.Reader

/-!
# Configuration files

The settings as a YAML document. Reading starts from the defaults and passes over unknown
settings; printing writes all of them.
-/

namespace ResourceTree
set_option autoImplicit false

open Yaml (Reader)

/-- Doubles in a configuration file. -/
def Config.doubleStyle : Number.FloatStyle := .data "e" ".nan" ".inf"

def Config.number (n : Nat) : Yaml.Value := .word (toString n)

def Config.double (x : Float) : Yaml.Value := .word (doubleStyle.text x)

namespace LayoutConfig

def field (name : String) (c : LayoutConfig) : Option (Reader LayoutConfig) :=
  match name with
  | "direction" =>
    some (.put (.choice [("right", .right), ("down", .down)]) ({ c with direction := · }))
  | "nodeWidth" => some (.put .double ({ c with nodeWidth := · }))
  | "nodeHeight" => some (.put .double ({ c with nodeHeight := · }))
  | "nodeSpacing" => some (.put .double ({ c with nodeSpacing := · }))
  | "layerSpacing" => some (.put .double ({ c with layerSpacing := · }))
  | "excludedKinds" => some (.put (.list .text) ({ c with excludedKinds := · }))
  | _ => none

def fromDocument : Reader LayoutConfig := .record "LayoutConfig" field {}

def toDocument (c : LayoutConfig) : Yaml.Value :=
  .mapping
    [("direction", .word c.direction.name), ("nodeWidth", Config.double c.nodeWidth),
      ("nodeHeight", Config.double c.nodeHeight), ("nodeSpacing", Config.double c.nodeSpacing),
      ("layerSpacing", Config.double c.layerSpacing), ("excludedKinds", .texts c.excludedKinds)]

end LayoutConfig

namespace RealtimeConfig

def field (name : String) (c : RealtimeConfig) : Option (Reader RealtimeConfig) :=
  match name with
  | "maxRetries" => some (.put (.natural "u32" 32) ({ c with maxRetries := · }))
  | "baseDelayMs" => some (.put (.natural "u64" 64) ({ c with baseDelayMs := · }))
  | "maxDelayMs" => some (.put (.natural "u64" 64) ({ c with maxDelayMs := · }))
  | _ => none

def fromDocument : Reader RealtimeConfig := .record "RealtimeConfig" field {}

def toDocument (c : RealtimeConfig) : Yaml.Value :=
  .mapping
    [("maxRetries", Config.number c.maxRetries), ("baseDelayMs", Config.number c.baseDelayMs),
      ("maxDelayMs", Config.number c.maxDelayMs)]

end RealtimeConfig

namespace Config

/-- A record with one field, a count. -/
def countFromDocument (title name : String) (absent : Nat) : Reader Nat :=
  .record title (fun key _ => if key = name then some (.natural "usize" 64) else none) absent

def field (name : String) (c : Config) : Option (Reader Config) :=
  let d : Config := {}
  match name with
  | "apiUrl" => some (.put .text ({ c with apiUrl := · }))
  | "fluxNamespace" => some (.put .text ({ c with fluxNamespace := · }))
  | "requestTimeoutSecs" => some (.put (.natural "u64" 64) ({ c with requestTimeoutSecs := · }))
  | "layout" => some (.put LayoutConfig.fromDocument ({ c with layout := · }))
  | "events" =>
    some (.put (countFromDocument "EventsConfig" "maxEvents" d.maxEvents)
      ({ c with maxEvents := · }))
  | "logs" =>
    some (.put (countFromDocument "LogsConfig" "buffer" d.logBuffer) ({ c with logBuffer := · }))
  | "realtime" => some (.put RealtimeConfig.fromDocument ({ c with realtime := · }))
  | _ => none

def fromDocument : Reader Config := .record "Config" field {}

/-- The settings of a file. -/
def ofText (s : String) : Except Yaml.Fault Config := Reader.ofText fromDocument s

/-- The file of the settings. -/
def toText (c : Config) : String :=
  Yaml.print
    [("apiUrl", .text c.apiUrl), ("fluxNamespace", .text c.fluxNamespace),
      ("requestTimeoutSecs", number c.requestTimeoutSecs), ("layout", c.layout.toDocument),
      ("events", .mapping [("maxEvents", number c.maxEvents)]),
      ("logs", .mapping [("buffer", number c.logBuffer)]),
      ("realtime", c.realtime.toDocument)]

end Config

end ResourceTree
