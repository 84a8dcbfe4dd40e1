import ResourceTree.Action
import ResourceTree.Tree.Run

/-!
# Runs with actions

What happens to a store that actions are asked of, as data: they begin and are settled, and in between
the store takes snapshots, deltas and log lines, so that every interleaving is a list.
-/

namespace ResourceTree.Store
set_option autoImplicit false

/-- Anything that happens to a store that actions are asked of. -/
inductive Activity where
  | operation (o : Operation)
  | begin (action : Action) (uid : String)
  /-- The request of a pending action has come to its end. That of one action may do so again. -/
  | settle (p : PendingAction) (failure : Option ActionError)

/-- The store after an activity. -/
def act (s : Store) : Activity → Store
  | .operation o => s.perform o
  | .begin action uid => (s.startAction action uid).1
  | .settle p failure => (s.settleAction p failure).1

/-- The store after activities, one after the other. -/
def enact (s : Store) (activities : List Activity) : Store := activities.foldl act s

/-- The operation of an activity that brings a log line. -/
def Activity.log? : Activity → Option Operation
  | .operation (.appendLog uid line) => some (.appendLog uid line)
  | .operation _ | .begin .. | .settle .. => none

/-- The log lines that activities bring, in order. -/
def logsOf (activities : List Activity) : List Operation := activities.filterMap Activity.log?

end ResourceTree.Store
