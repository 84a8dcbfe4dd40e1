import ResourceTree.Config.Basic

/-!
# Configurations as JSON documents

A configuration need not come from its file: a program that takes the tree in may hand over a JSON
document of the same shape. Whatever is absent has its default, and unknown settings are passed over.
-/

namespace ResourceTree
set_option autoImplicit false

open Json (Reader Fields RecordShape)

def Direction.read : Reader Direction :=
  Reader.choice [("right", .right), ("down", .down)]

def LayoutConfig.shape : RecordShape :=
  { title := "LayoutConfig"
    names := ["direction", "nodeWidth", "nodeHeight", "nodeSpacing", "layerSpacing",
      "excludedKinds"] }

def LayoutConfig.read : Reader LayoutConfig :=
  let d : LayoutConfig := {}
  shape.reader fun s =>
    LayoutConfig.mk <$> s.withDefault "direction" Direction.read d.direction
      <*> s.withDefault "nodeWidth" Reader.double d.nodeWidth
      <*> s.withDefault "nodeHeight" Reader.double d.nodeHeight
      <*> s.withDefault "nodeSpacing" Reader.double d.nodeSpacing
      <*> s.withDefault "layerSpacing" Reader.double d.layerSpacing
      <*> s.withDefault "excludedKinds" (Reader.list Reader.text) d.excludedKinds

def RealtimeConfig.shape : RecordShape :=
  { title := "RealtimeConfig", names := ["maxRetries", "baseDelayMs", "maxDelayMs"] }

def RealtimeConfig.read : Reader RealtimeConfig :=
  let d : RealtimeConfig := {}
  shape.reader fun s =>
    RealtimeConfig.mk <$> s.withDefault "maxRetries" (Reader.natural "u32" 32) d.maxRetries
      <*> s.withDefault "baseDelayMs" (Reader.natural "u64" 64) d.baseDelayMs
      <*> s.withDefault "maxDelayMs" (Reader.natural "u64" 64) d.maxDelayMs

/-- A record with one field, a count. -/
def readCount (title name : String) (absent : Nat) : Reader Nat :=
  RecordShape.reader { title, names := [name] } fun s =>
    s.withDefault name (Reader.natural "usize" 64) absent

namespace Config

def shape : RecordShape :=
  { title := "Config"
    names := ["apiUrl", "fluxNamespace", "requestTimeoutSecs", "layout", "events", "logs",
      "realtime"] }

def read : Reader Config :=
  let d : Config := {}
  shape.reader fun s =>
    Config.mk <$> s.withDefault "apiUrl" Reader.text d.apiUrl
      <*> s.withDefault "fluxNamespace" Reader.text d.fluxNamespace
      <*> s.withDefault "requestTimeoutSecs" (Reader.natural "u64" 64) d.requestTimeoutSecs
      <*> s.withDefault "layout" LayoutConfig.read {}
      <*> s.withDefault "events" (readCount "EventsConfig" "maxEvents" d.maxEvents) d.maxEvents
      <*> s.withDefault "logs" (readCount "LogsConfig" "buffer" d.logBuffer) d.logBuffer
      <*> s.withDefault "realtime" RealtimeConfig.read {}

end Config

end ResourceTree
