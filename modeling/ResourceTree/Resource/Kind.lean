/-!
# Kinds and states of resources

The kinds that the tree treats in a way of their own, the health states of a resource, and the
directions in which a graph can grow, each with its name. A resource may be of any other kind; it
then has no name here.
-/

namespace ResourceTree
set_option autoImplicit false

/-- A kind with dedicated handling. -/
inductive Kind where
  | kustomization
  | helmRelease
  | helmChart
  | gitRepository
  | ociRepository
  | helmRepository
  | bucket
  | deployment
  | pod
  | persistentVolumeClaim
  | clusterRole
  | clusterRoleBinding
  | customResourceDefinition
  deriving DecidableEq, Repr

namespace Kind

def name : Kind → String
  | kustomization => "Kustomization"
  | helmRelease => "HelmRelease"
  | helmChart => "HelmChart"
  | gitRepository => "GitRepository"
  | ociRepository => "OCIRepository"
  | helmRepository => "HelmRepository"
  | bucket => "Bucket"
  | deployment => "Deployment"
  | pod => "Pod"
  | persistentVolumeClaim => "PersistentVolumeClaim"
  | clusterRole => "ClusterRole"
  | clusterRoleBinding => "ClusterRoleBinding"
  | customResourceDefinition => "CustomResourceDefinition"

def all : List Kind :=
  [kustomization, helmRelease, helmChart, gitRepository, ociRepository, helmRepository, bucket,
    deployment, pod, persistentVolumeClaim, clusterRole, clusterRoleBinding,
    customResourceDefinition]

/-- The kind of a name. -/
def ofName? (s : String) : Option Kind :=
  all.find? (·.name = s)

/-- What is said of a name that is no kind. -/
def unknownMessage (s : String) : String := "Unknown resource kind: " ++ s

/-- Kinds listed as applications. -/
def isApplication : Kind → Bool
  | kustomization | helmRelease | helmChart => true
  | _ => false

/-- Kinds listed as repositories. -/
def isRepository : Kind → Bool
  | ociRepository | helmRepository | gitRepository | bucket => true
  | _ => false

/-- Kinds that bound a graph: nested ones show collapsed in the graph around them. -/
def isBoundary : Kind → Bool
  | kustomization | helmRelease => true
  | _ => false

/-- Kinds that can be reconciled, suspended and resumed. -/
def isReconcilable : Kind → Bool
  | kustomization | helmRelease | helmChart | helmRepository | gitRepository | ociRepository => true
  | _ => false

end Kind

/-- The health of a resource as a whole. -/
inductive Status where
  | unknown
  | success
  | failed
  | pending
  | warning
  deriving DecidableEq, Repr

namespace Status

def name : Status → String
  | unknown => "unknown"
  | success => "success"
  | failed => "failed"
  | pending => "pending"
  | warning => "warning"

def ofName? (s : String) : Option Status :=
  [unknown, success, failed, pending, warning].find? (·.name = s)

/-- What is said of a name that is no status. -/
def unknownMessage (s : String) : String := "Invalid ResourceStatus: " ++ s

end Status

/-- The side to which the layers of a graph follow each other. -/
inductive Direction where
  | right
  | down
  deriving DecidableEq, Repr

namespace Direction

def name : Direction → String
  | right => "right"
  | down => "down"

/-- A direction by name or short form, in any case. -/
def ofWord? (s : String) : Option Direction :=
  let word := s.toLower
  if word = "right" ∨ word = "lr" then some right
  else if word = "down" ∨ word = "tb" then some down
  else none

/-- What is said of a word that is no direction. -/
def unknownMessage (s : String) : String :=
  "Invalid layout direction: " ++ s ++ " (expected right or down)"

end Direction

/-- What a node of a graph is drawn as. -/
inductive NodeType where
  | deployment
  | pod
  | resource
  deriving DecidableEq, Repr

namespace NodeType

def name : NodeType → String
  | deployment => "deployment"
  | pod => "pod"
  | resource => "resource"

/-- The type of a resource of a kind. -/
def ofKind (kind : String) : NodeType :=
  match Kind.ofName? kind with
  | some .deployment => deployment
  | some .pod => pod
  | _ => resource

end NodeType

end ResourceTree
