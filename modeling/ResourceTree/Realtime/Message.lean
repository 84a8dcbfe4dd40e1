import ResourceTree.Json.Printer
import ResourceTree.Json.Reader

/-!
# Realtime messages

Every frame of the realtime channel is an envelope: a kind, the client it is for, an operation
and a payload. Changes of single nodes come as a kind of their own or as the kind `resource` with
the operation beside it.
-/

namespace ResourceTree
set_option autoImplicit false

/-- What a frame asks to do with one node. -/
inductive DeltaOp where
  | add
  | update
  | remove
  deriving DecidableEq, Repr

namespace DeltaOp

def name : DeltaOp → String
  | add => "add"
  | update => "update"
  | remove => "remove"

/-- An operation by one of its names, in any case. -/
def ofWord? (s : String) : Option DeltaOp :=
  let word := s.toLower
  if word = "add" ∨ word = "added" then some add
  else if word = "update" ∨ word = "modified" then some update
  else if word = "remove" ∨ word = "delete" ∨ word = "deleted" then some remove
  else none

end DeltaOp

/-- The kinds of frames. -/
inductive MessageKind where
  | tree
  | resourceAdd
  | resourceUpdate
  | resourceRemove
  /-- A change whose operation stands beside the kind. -/
  | resource
  | event
  | log
  | ping
  | pong
  | connected
  | startWatchLogs
  deriving DecidableEq, Repr

namespace MessageKind

def name : MessageKind → String
  | tree => "tree"
  | resourceAdd => "resource_add"
  | resourceUpdate => "resource_update"
  | resourceRemove => "resource_remove"
  | resource => "resource"
  | event => "event"
  | log => "log"
  | ping => "ping"
  | pong => "pong"
  | connected => "connected"
  | startWatchLogs => "start_watch_logs"

def all : List MessageKind :=
  [tree, resourceAdd, resourceUpdate, resourceRemove, resource, event, log, ping, pong, connected,
    startWatchLogs]

/-- A kind by name, in any case. -/
def ofWord? (s : String) : Option MessageKind :=
  all.find? (·.name = s.toLower)

/-- The operation that the kind alone implies. -/
def deltaOp? : MessageKind → Option DeltaOp
  | resourceAdd => some .add
  | resourceUpdate => some .update
  | resourceRemove => some .remove
  | _ => none

end MessageKind

structure Envelope where
  type : String
  clientId : Option String := none
  op : Option String := none
  message : Json.Value

namespace Envelope

open Json (Reader Value)

def ofKind (kind : MessageKind) (message : Value) : Envelope :=
  { type := kind.name, message }

/-- An envelope that carries an operation beside its kind. -/
def ofDelta (op : DeltaOp) (message : Value) : Envelope :=
  { type := MessageKind.resource.name, op := some op.name, message }

def shape : Json.RecordShape :=
  { title := "Envelope", names := ["type", "clientId", "op", "message"] }

def read : Reader Envelope :=
  shape.reader fun s =>
    Envelope.mk <$> s.required "type" Reader.text <*> s.optional "clientId" Reader.text
      <*> s.optional "op" Reader.text <*> s.withDefault "message" Reader.value .null

/-- The envelope of a text frame. -/
def ofText (raw : String) : Except Json.Fault Envelope := Reader.ofText read raw

/-- The text frame of an envelope. -/
def toText (e : Envelope) : String :=
  Json.print <| .object <|
    [("type", Value.text e.type)]
      ++ (e.clientId.toList.map fun id => ("clientId", .text id))
      ++ (e.op.toList.map fun op => ("op", .text op))
      ++ [("message", e.message)]

def kind? (e : Envelope) : Option MessageKind := MessageKind.ofWord? e.type

/-- The operation that the kind implies, else the one that a `resource` names. -/
def deltaOp? (e : Envelope) : Option DeltaOp :=
  match e.kind? with
  | some .resource => e.op.bind DeltaOp.ofWord?
  | some kind => kind.deltaOp?
  | none => none

end Envelope

end ResourceTree
