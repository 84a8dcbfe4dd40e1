import ResourceTree.EventLog
import ResourceTree.Failure
import ResourceTree.Realtime.Message
import ResourceTree.Snapshot
import ResourceTree.Tree.Store

/-!
# Loading from the server

What becomes of the answers of the server: a tree that replaces the one that is kept, a list of
events, a description that is passed on as it is, and the request to watch the log of a pod.
-/

namespace ResourceTree
set_option autoImplicit false

/-- A failure on account of a payload. -/
def PayloadError.failure (e : PayloadError) : Failure :=
  match e.chain with
  | [] => { message := e.message }
  | message :: causes => { message, causes }

/-- A failure on account of a record. -/
def DecodeError.failure (e : DecodeError) : Failure := { message := e.message }

/-- Takes the tree that was fetched; gives its number of nodes. -/
def Store.loadTree (s : Store) (fetched : Except Failure Wire.Node) :
    Except Failure (Store × Nat) := do
  let w ← fetched.mapError (·.within "Failed to load tree")
  let tree ← (Decode.node w).mapError fun e => e.failure.within "Failed to decode tree"
  return (s.replaceTree tree, tree.size)

/-- Takes the events that were fetched; gives the number that is kept. -/
def EventLog.load (l : EventLog) (fetched : Except Failure (List Wire.Event)) :
    Except Failure (EventLog × Nat) := do
  let ws ← fetched.mapError (·.within "Failed to load events")
  let events ← (ws.mapM Decode.event).mapError fun e =>
    e.failure.within "Failed to decode events"
  let l := l.setEvents events
  return (l, l.events.length)

/-- The description of a node that was fetched. -/
def describe (uid : String) (fetched : Except Failure String) : Except Failure String :=
  fetched.mapError (·.within ("Failed to describe " ++ uid))

/-- The frame that asks for the log of a pod. -/
def watchLogs (r : Resource) : Except Failure Envelope :=
  if r.kind = Kind.pod.name then .ok (.ofKind .startWatchLogs (.text r.uid))
  else .error { message := r.kind ++ " " ++ r.displayName ++ " is not a Pod" }

end ResourceTree
