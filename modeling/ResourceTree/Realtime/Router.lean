import ResourceTree.EventLog
import ResourceTree.Realtime.Message
import ResourceTree.Snapshot
import ResourceTree.Tree.Store

/-!
# Routing of realtime frames

A router passes every frame to the tree or to the event list and says what it did. A frame that
is malformed is dropped and changes nothing. After a loss of the connection the tree is out of
date until the next snapshot.
-/

namespace ResourceTree
set_option autoImplicit false

inductive ConnectionState where
  | disconnected
  | connecting
  | connected
  deriving DecidableEq, Repr

def ConnectionState.name : ConnectionState → String
  | disconnected => "disconnected"
  | connecting => "connecting"
  | connected => "connected"

inductive NoticeLevel where
  | info
  | warning
  | error
  deriving DecidableEq, Repr

def NoticeLevel.name : NoticeLevel → String
  | info => "Info"
  | warning => "Warning"
  | error => "Error"

/-- A passing message to the user. -/
structure Notice where
  level : NoticeLevel
  text : String
  deriving DecidableEq, Repr

/-- What a frame did. -/
inductive Outcome where
  | treeReplaced (nodes : Nat)
  | delta (op : DeltaOp) (result : Mutation)
  | logAppended
  | event (added : Bool) (notice : Option Notice)
  | connected (clientId : Option String)
  | heartbeat
  /-- Understood, but of no use here. -/
  | ignored (kind : String)
  | dropped (reason : String)
  deriving DecidableEq, Repr

structure Router where
  store : Store
  events : EventLog
  connection : ConnectionState
  clientId : Option String
  /-- No snapshot has come since the connection was lost. -/
  needsResync : Bool

namespace Router

open Json (Value)

/-- A router before the first connection. -/
def start (store : Store) (events : EventLog) : Router :=
  { store, events, connection := .disconnected, clientId := none, needsResync := true }

/-- The connection has changed. -/
def onConnection (r : Router) (state : ConnectionState) : Router :=
  if state = .disconnected ∧ r.connection ≠ .disconnected then
    { r with connection := state, needsResync := true, clientId := none }
  else { r with connection := state }

/-- The tree of a snapshot payload, compressed or not. -/
def snapshotOf : Value → Except PayloadError Tree
  | .text payload => Snapshot.decodeCompressed payload
  | v => do Snapshot.decode (← Snapshot.readValue Wire.Node.read v)

def handleTree (r : Router) (message : Value) : Except PayloadError (Router × Outcome) := do
  let tree ← snapshotOf message
  return ({ r with store := r.store.replaceTree tree, needsResync := false },
    .treeReplaced tree.size)

/-- The tree of a delta payload. -/
def deltaTree (message : Value) : Except PayloadError Tree := do
  Snapshot.decode (← Snapshot.readValue Wire.Node.read message)

def handleDelta (r : Router) (op : DeltaOp) (message : Value) :
    Except PayloadError (Router × Outcome) := do
  let (store, result) ← match op with
    | .add => r.store.add <$> deltaTree message
    | .update => r.store.update <$> deltaTree message
    | .remove => do
      let target ← Snapshot.readValue Wire.NodeRef.read message
      pure (r.store.remove target.uid target.parent)
  return ({ r with store }, .delta op result)

/-- The notice of an event, none for a normal one. -/
def noticeOf (w : Wire.Event) : Option Notice :=
  if w.type = "Normal" then none
  else some
    { level := if w.type = "Warning" then .warning else .error
      text := "[" ++ w.kind ++ "] " ++ w.name ++ " \n" ++ w.reason ++ " - " ++ w.message }

def handleEvent (r : Router) (message : Value) : Except PayloadError (Router × Outcome) := do
  let w ← Snapshot.readValue Wire.Event.read message
  let e ← (Decode.event w).mapError .record
  let (events, added) := r.events.add e
  return ({ r with events }, .event added (noticeOf w))

/-- A log line is kept only for the selected node. -/
def handleLog (r : Router) (message : Value) : Except PayloadError (Router × Outcome) := do
  let w ← Snapshot.readValue Wire.Log.read message
  let (uid, line) ← (Decode.log w).mapError .record
  if r.store.selected = some uid then
    match r.store.appendLog? uid line with
    | some store => return ({ r with store }, .logAppended)
    | none => return (r, .ignored MessageKind.log.name)
  else return (r, .ignored MessageKind.log.name)

/-- Routes an envelope whose kind is known; a payload error leaves the router as it was. -/
def dispatch (r : Router) (kind : MessageKind) (e : Envelope) :
    Except PayloadError (Router × Outcome) :=
  match kind with
  | .tree => r.handleTree e.message
  | .resourceAdd | .resourceUpdate | .resourceRemove | .resource =>
    match e.deltaOp? with
    | some op => r.handleDelta op e.message
    | none => .ok (r, .ignored e.type)
  | .event => r.handleEvent e.message
  | .log => r.handleLog e.message
  | .connected =>
    let clientId := e.clientId.filter (· ≠ "")
    .ok ({ r with clientId }, .connected clientId)
  | .ping | .pong => .ok (r, .heartbeat)
  | .startWatchLogs => .ok (r, .ignored e.type)

/-- Routes an envelope. -/
def handle (r : Router) (e : Envelope) : Router × Outcome :=
  match e.kind? with
  | none => (r, .ignored e.type)
  | some kind => match r.dispatch kind e with
    | .ok result => result
    | .error err => (r, .dropped err.message)

/-- Routes a text frame. -/
def handleText (r : Router) (raw : String) : Router × Outcome :=
  match Envelope.ofText raw with
  | .ok e => r.handle e
  | .error f => (r, .dropped f.message)

end Router

end ResourceTree
