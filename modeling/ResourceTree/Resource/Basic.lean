import ResourceTree.Resource.Event
import ResourceTree.Resource.Kind
import ResourceTree.Resource.Log
import ResourceTree.Resource.Metadata

/-!
# Resources

All that is known of one resource of a cluster, without the resources below it, and the rule by
which it takes an update.
-/

namespace ResourceTree
set_option autoImplicit false

/-- A status assertion. -/
structure Condition where
  lastTransitionTime : Instant
  type : String
  status : Bool
  message : String
  reason : String
  deriving DecidableEq, Repr

namespace Condition

/-- Conditions that hold of a healthy resource. -/
def isReadyType (c : Condition) : Bool :=
  c.type = "Ready" || c.type = "Healthy" || c.type = "Released" || c.type = "Available"

/-- A stalled resource, or one of which a healthy condition does not hold. -/
def isError (c : Condition) : Bool :=
  if c.type = "Stalled" then c.status else c.isReadyType && !c.status

end Condition

structure Resource where
  uid : String
  name : String
  kind : String
  apiVersion : Option String
  group : Option String
  resourceName : Option String
  /-- Absent for kinds that belong to the cluster as a whole. -/
  ns : Option String
  createdAt : Instant
  /-- Present on tombstones. -/
  deletedAt : Option Instant
  annotations : Dictionary String
  labels : Dictionary String
  status : Status
  conditions : List Condition
  events : List Event
  /-- Newest first. -/
  logs : List LogLine
  isFluxManaged : Bool
  metadata : Metadata
  parentId : Option String
  deriving DecidableEq, Repr

namespace Resource

/-- What stands at the root before the first snapshot. -/
def placeholder : Resource where
  uid := ""
  name := ""
  kind := ""
  apiVersion := none
  group := none
  resourceName := none
  ns := none
  createdAt := .epoch
  deletedAt := none
  annotations := []
  labels := []
  status := .unknown
  conditions := []
  events := []
  logs := []
  isFluxManaged := false
  metadata := .generic
  parentId := none

/-- The dedicated kind of a resource. -/
def kind? (r : Resource) : Option Kind := Kind.ofName? r.kind

/-- Whether the resource is of a dedicated kind with a property. -/
def isOfKind (p : Kind → Bool) (r : Resource) : Bool := r.kind?.any p

def isReconcilable (r : Resource) : Bool := r.metadata.flux?.isSome

def isTombstone (r : Resource) : Bool := r.deletedAt.isSome

/-- Namespace and name, or the name alone. -/
def displayName (r : Resource) : String :=
  match r.ns with
  | some ns => ns ++ "/" ++ r.name
  | none => r.name

/-- Takes an update: identity and logs stay, a parent is replaced only by a parent, events are
merged, and all else is replaced. -/
def merge (r incoming : Resource) : Resource :=
  { incoming with
    uid := r.uid
    logs := r.logs
    events := Event.merge r.events incoming.events
    parentId := incoming.parentId.or r.parentId }

end Resource

end ResourceTree
