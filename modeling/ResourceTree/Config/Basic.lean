import ResourceTree.EventLog
import ResourceTree.Graph.Scheduler
import ResourceTree.Json.Reader
import ResourceTree.Realtime.Backoff

/-!
# Configuration

The settings of the program with their defaults, and what is made from them.
-/

namespace ResourceTree
set_option autoImplicit false

structure LayoutConfig where
  direction : Direction := .right
  nodeWidth : Float := 240
  nodeHeight : Float := 80
  nodeSpacing : Float := 180
  layerSpacing : Float := 15
  /-- The kinds that graphs leave out. -/
  excludedKinds : List String := ["ClusterRole", "ClusterRoleBinding", "CustomResourceDefinition"]

structure RealtimeConfig where
  maxRetries : Nat := 10
  baseDelayMs : Nat := 1000
  maxDelayMs : Nat := 30000
  deriving DecidableEq, Repr

structure Config where
  /-- The address of the server. -/
  apiUrl : String := "http://localhost:8080"
  /-- The namespace of the controllers and of the root. -/
  fluxNamespace : String := "flux-system"
  requestTimeoutSecs : Nat := 10
  layout : LayoutConfig := {}
  /-- The events that are kept. -/
  maxEvents : Nat := 500
  /-- The log lines that are kept for each pod. -/
  logBuffer : Nat := 1000
  realtime : RealtimeConfig := {}

namespace LayoutConfig

/-- Equal settings; a size that is not a number differs from itself. -/
def beq (a b : LayoutConfig) : Bool :=
  a.direction = b.direction && a.nodeWidth == b.nodeWidth && a.nodeHeight == b.nodeHeight
    && a.nodeSpacing == b.nodeSpacing && a.layerSpacing == b.layerSpacing
    && a.excludedKinds = b.excludedKinds

instance : BEq LayoutConfig := ⟨beq⟩

end LayoutConfig

namespace Config

/-- Equal settings. -/
def beq (a b : Config) : Bool :=
  a.apiUrl = b.apiUrl && a.fluxNamespace = b.fluxNamespace
    && a.requestTimeoutSecs = b.requestTimeoutSecs && a.layout == b.layout
    && a.maxEvents = b.maxEvents && a.logBuffer = b.logBuffer && a.realtime = b.realtime

instance : BEq Config := ⟨beq⟩

def layoutOptions (c : Config) : LayoutOptions Float :=
  { direction := c.layout.direction, nodeWidth := c.layout.nodeWidth
    nodeHeight := c.layout.nodeHeight, nodeSpacing := c.layout.nodeSpacing
    layerSpacing := c.layout.layerSpacing }

def reconnectPolicy (c : Config) : ReconnectPolicy :=
  { maxRetries := c.realtime.maxRetries, baseDelay := c.realtime.baseDelayMs
    maxDelay := c.realtime.maxDelayMs }

/-- An empty store. -/
def store (c : Config) : Store := .empty c.fluxNamespace c.logBuffer

/-- An empty event list. -/
def eventLog (c : Config) : EventLog := .empty c.maxEvents

/-- A scheduler without requests. -/
def scheduler (c : Config) : Scheduler Float := .idle c.layout.excludedKinds c.layoutOptions

end Config

end ResourceTree
