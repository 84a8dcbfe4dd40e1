import ResourceTree.Realtime.Router
import ResourceTree.Tree.Run

/-!
# Runs of a router

What comes to a router, frames and changes of the connection, and what the user does at its store in
between, as data, so that a run of a router is a list. Snapshots and deltas come in frames alone.
-/

namespace ResourceTree
set_option autoImplicit false

/-- What a router takes in. -/
inductive Signal where
  | frame (raw : String)
  | connection (state : ConnectionState)
  | operation (o : Store.Operation) (isLocal : o.isLocal = true)

namespace Router

/-- The router after a signal. -/
def receive (r : Router) : Signal → Router
  | .frame raw => (r.handleText raw).1
  | .connection state => r.onConnection state
  | .operation o _ => { r with store := r.store.perform o }

/-- The router after signals, one after the other. -/
def run (r : Router) (signals : List Signal) : Router := signals.foldl receive r

end Router

end ResourceTree
