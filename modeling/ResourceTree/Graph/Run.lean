import ResourceTree.Graph.Scheduler
import ResourceTree.Tree.Run

/-!
# Runs of a graph view

A store together with the scheduler of its layouts, and all that can be done to the two as data, so
that a run is a list in which changes of the tree, requests and late results come in any order.
-/

namespace ResourceTree
set_option autoImplicit false

structure GraphView (α : Type) where
  store : Store
  scheduler : Scheduler α

namespace GraphView

/-- Anything that can be done to a graph view. -/
inductive Action (α : Type) where
  | operation (o : Store.Operation)
  | spawn (uid : String)
  | cancel
  /-- A finished layout arrives. It is accepted or not, and may arrive again. -/
  | accept (t : Ticket) (l : Layout α)

variable {α : Type}

/-- What becomes of a finished layout that arrives now. -/
def accept (v : GraphView α) (t : Ticket) (l : Layout α) : Option (Layout α) :=
  v.scheduler.accept t v.store.version l

variable [Coordinate α]

/-- The layout of the tree as it is now. -/
def layoutNow? (v : GraphView α) (uid : String) : Option (Layout α) :=
  v.scheduler.layoutNow? v.store uid

/-- The ticket that an action issues, and the layout that is computed for it. -/
def issue? (v : GraphView α) : Action α → Option (Ticket × Layout α)
  | .spawn uid => (v.scheduler.spawn? v.store uid).map (·.2)
  | .operation _ | .cancel | .accept .. => none

/-- Whether an action supersedes all earlier tickets. -/
def supersedes (v : GraphView α) : Action α → Bool
  | .spawn uid => (v.issue? (.spawn uid)).isSome
  | .cancel => true
  | .operation _ | .accept .. => false

/-- The graph view after an action. -/
def perform (v : GraphView α) : Action α → GraphView α
  | .operation o => { v with store := v.store.perform o }
  | .spawn uid =>
    match v.scheduler.spawn? v.store uid with
    | some (scheduler, _) => { v with scheduler }
    | none => v
  | .cancel => { v with scheduler := v.scheduler.cancel }
  | .accept .. => v

/-- The graph view after actions, one after the other. -/
def run (v : GraphView α) (history : List (Action α)) : GraphView α := history.foldl perform v

/-- The tickets that actions issue, each with its layout. -/
def issued (v : GraphView α) : List (Action α) → List (Ticket × Layout α)
  | [] => []
  | a :: rest => (v.issue? a).toList ++ (v.perform a).issued rest

end GraphView

end ResourceTree
