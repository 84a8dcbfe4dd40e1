import ResourceTree.Tree.Store

/-!
# Actions on reconciled resources

An action is asked of the server and shown at once: its flags are set in the tree when it begins.
If the request fails, they are set back, unless the tree has changed since.
-/

namespace ResourceTree
set_option autoImplicit false

inductive Action where
  | reconcile
  | suspend
  | resume
  deriving DecidableEq, Repr

namespace Action

def name : Action → String
  | reconcile => "reconcile"
  | suspend => "suspend"
  | resume => "resume"

def ofName? (s : String) : Option Action := [reconcile, suspend, resume].find? (·.name = s)

/-- What the reconciling flag becomes while the request is under way. -/
def reconciling : Action → Option Bool
  | reconcile => some true
  | _ => none

/-- What the suspended flag becomes while the request is under way. -/
def suspended : Action → Option Bool
  | suspend => some true
  | resume => some false
  | reconcile => none

end Action

/-- Why a request to the server failed. -/
inductive RemoteFailure where
  | http (status : Nat)
  | transport (message : String)
  deriving DecidableEq, Repr

/-- Why an action did not succeed. -/
inductive ActionError where
  | remote (action : Action) (uid : String) (failure : RemoteFailure)
  | notReconcilable (uid kind : String)
  | notFound (uid : String)
  deriving DecidableEq, Repr

/-- What is said of a uid that no node has. -/
def notFoundMessage (uid : String) : String := "Node with id " ++ uid ++ " not found"

def ActionError.message : ActionError → String
  | .remote action uid (.http status) =>
    action.name ++ " failed for " ++ uid ++ ": HTTP " ++ toString status
  | .remote action uid (.transport message) =>
    action.name ++ " failed for " ++ uid ++ ": " ++ message
  | .notReconcilable uid kind => kind ++ " " ++ uid ++ " cannot be reconciled, suspended or resumed"
  | .notFound uid => notFoundMessage uid

/-- An action that has begun: the flags before it, and the version of the tree right after. -/
structure PendingAction where
  action : Action
  uid : String
  previous : Flux
  version : Nat
  deriving DecidableEq, Repr

namespace Store

/-- Checks the target of an action and sets its flags. The empty uid means the root. -/
def startAction (s : Store) (action : Action) (uid : String) :
    Store × Except ActionError PendingAction :=
  match s.tree.resolve? uid with
  | none => (s, .error (.notFound uid))
  | some t =>
    if !t.resource.isReconcilable then (s, .error (.notReconcilable t.uid t.resource.kind))
    else match s.setFlags t.uid action.reconciling action.suspended with
      | (s', .changed previous) =>
        (s', .ok { action, uid := t.uid, previous, version := s'.version })
      | (s', .notFound) => (s', .error (.notFound t.uid))
      | (s', .notReconciled) => (s', .error (.notReconcilable t.uid ""))

/-- The store and the action that have come of starting one, if it has started. -/
def beginAction (s : Store) (action : Action) (uid : String) :
    Except ActionError (Store × PendingAction) :=
  match s.startAction action uid with
  | (s', .ok p) => .ok (s', p)
  | (_, .error e) => .error e

/-- Sets the flags of a pending action back, unless the tree has changed since. -/
def rollBack (s : Store) (p : PendingAction) : Store :=
  if s.version = p.version then
    (s.setFlags p.uid (some p.previous.isReconciling) (some p.previous.isSuspended)).1
  else s

/-- Settles a pending action with the error that its request came to, if it did. -/
def settleAction (s : Store) (p : PendingAction) (failure : Option ActionError) :
    Store × Option ActionError :=
  match failure with
  | none => (s, none)
  | some e => (s.rollBack p, some e)

/-- Settles a pending action with the result of its request. -/
def completeAction (s : Store) (p : PendingAction) (failure : Option RemoteFailure) :
    Store × Option ActionError :=
  s.settleAction p (failure.map (.remote p.action p.uid))

/-- Starts an action and settles it with the result that its request will have. -/
def runAction (s : Store) (action : Action) (uid : String) (failure : Option RemoteFailure) :
    Store × Option ActionError :=
  match s.startAction action uid with
  | (s', .error e) => (s', some e)
  | (s', .ok p) => s'.completeAction p failure

end Store

end ResourceTree
