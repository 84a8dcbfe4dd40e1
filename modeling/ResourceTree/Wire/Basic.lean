import ResourceTree.Dictionary

/-!
# Records on the wire

The records that a server sends: nodes with all that is known of them, events and log lines.
Times are still texts here, so that a malformed one can be reported with the field it stands in.
-/

namespace ResourceTree.Wire
set_option autoImplicit false

structure Condition where
  lastTransitionTime : String
  type : String
  status : String
  message : String
  reason : String
  deriving DecidableEq, Repr

structure Event where
  uid : String
  kind : String
  name : String
  ns : String
  reason : String
  message : String
  source : String
  type : String
  firstObserved : String
  lastObserved : String
  count : Int
  resourceUid : String
  deriving DecidableEq, Repr

/-- A log line with the uid of the pod that it belongs to. -/
structure Log where
  uid : String
  log : String
  timestamp : String
  container : String
  deriving DecidableEq, Repr

structure SourceRef where
  kind : String
  name : String
  ns : Option String
  deriving DecidableEq, Repr

structure Flux where
  lastHandledReconcileAt : Option String := none
  lastSyncAt : Option String := none
  isSuspended : Bool := false
  isReconciling : Bool := false
  deriving DecidableEq, Repr

structure Kustomization where
  path : String := ""
  isReconciling : Bool := false
  isSuspended : Bool := false
  sourceRef : Option SourceRef := none
  lastAppliedRevision : String := ""
  lastAttemptedRevision : String := ""
  lastHandledReconcileAt : Option String := none
  dependsOn : List String := []
  deriving DecidableEq, Repr

structure HelmRelease where
  chartName : String := ""
  chartVersion : String := ""
  isReconciling : Bool := false
  isSuspended : Bool := false
  sourceRef : Option SourceRef := none
  deriving DecidableEq, Repr

structure GitRepository where
  url : String := ""
  branch : Option String := none
  tag : Option String := none
  semver : Option String := none
  name : Option String := none
  commit : Option String := none
  deriving DecidableEq, Repr

structure OciRepository where
  url : String := ""
  digest : Option String := none
  tag : Option String := none
  semver : Option String := none
  semverFilter : Option String := none
  deriving DecidableEq, Repr

structure Deployment where
  replicas : Int := 0
  readyReplicas : Int := 0
  updatedReplicas : Int := 0
  availableReplicas : Int := 0
  images : List String := []
  deriving DecidableEq, Repr

structure Pod where
  phase : String := ""
  image : String := ""
  deriving DecidableEq, Repr

structure VolumeClaim where
  storageClass : String := ""
  volumeName : String := ""
  volumeMode : String := ""
  accessModes : List String := []
  capacity : Dictionary String := []
  phase : String := ""
  deriving DecidableEq, Repr

/-- The uid of the parent: the field of its own first, then the head of the list; an empty text
is no parent. -/
def parentOf (parentId : Option String) (parentIds : List String) : Option String :=
  (parentId.or parentIds.head?).filter (· ≠ "")

/-- What a node record says of the node itself. -/
structure Record where
  uid : String
  name : String := ""
  kind : String := ""
  version : Option String := none
  group : Option String := none
  resource : Option String := none
  ns : Option String := none
  parentId : Option String := none
  parentIds : List String := []
  createdAt : String
  deletedAt : Option String := none
  annotations : Dictionary String := []
  labels : Dictionary String := []
  status : Option String := none
  conditions : List Condition := []
  events : List Event := []
  isFluxManaged : Bool := false
  flux : Option Flux := none
  kustomization : Option Kustomization := none
  helmRelease : Option HelmRelease := none
  gitRepository : Option GitRepository := none
  ociRepository : Option OciRepository := none
  deployment : Option Deployment := none
  pod : Option Pod := none
  volumeClaim : Option VolumeClaim := none
  deriving DecidableEq, Repr

/-- The parent that the record names. -/
def Record.parent (r : Record) : Option String := parentOf r.parentId r.parentIds

/-- A node record with those of its children. -/
inductive Node where
  | node (record : Record) (children : List Node)

namespace Node

def record : Node → Record
  | node r _ => r

def children : Node → List Node
  | node _ cs => cs

/-- The parent that a node record names. -/
def parent (n : Node) : Option String := n.record.parent

mutual

def beq : Node → Node → Bool
  | node r cs, node r' cs' => decide (r = r') && beqList cs cs'

def beqList : List Node → List Node → Bool
  | [], [] => true
  | n :: rest, n' :: rest' => beq n n' && beqList rest rest'
  | _, _ => false

end

instance : BEq Node := ⟨beq⟩

end Node

/-- The part of a node record that addresses the node. -/
structure NodeRef where
  uid : String
  parentId : Option String
  parentIds : List String
  deriving DecidableEq, Repr

/-- The parent that the address names. -/
def NodeRef.parent (r : NodeRef) : Option String := parentOf r.parentId r.parentIds

end ResourceTree.Wire
