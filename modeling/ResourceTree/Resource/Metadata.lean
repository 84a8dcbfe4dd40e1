import ResourceTree.Dictionary
import ResourceTree.Instant

/-!
# What a kind adds to a resource

Each resource has one metadata variant, selected by its kind. Variants of kinds that are
reconciled share a block of reconcile state.
-/

namespace ResourceTree
set_option autoImplicit false

/-- Reconcile state. -/
structure Flux where
  isReconciling : Bool := false
  isSuspended : Bool := false
  lastHandledReconcileAt : Option Instant := none
  /-- The last time that a reconcile completed. -/
  lastSyncAt : Option Instant := none
  deriving DecidableEq, Repr

/-- The source that an application is pulled from. -/
structure SourceRef where
  kind : String
  name : String
  ns : Option String
  deriving DecidableEq, Repr

structure KustomizationSpec where
  path : String
  sourceRef : Option SourceRef
  lastAppliedRevision : String
  lastAttemptedRevision : String
  dependsOn : List String
  deriving DecidableEq, Repr

structure HelmReleaseSpec where
  chartName : String
  chartVersion : String
  sourceRef : Option SourceRef
  deriving DecidableEq, Repr

structure GitRepositorySpec where
  url : String
  branch : Option String
  tag : Option String
  semver : Option String
  name : Option String
  commit : Option String
  deriving DecidableEq, Repr

structure OciRepositorySpec where
  url : String
  digest : Option String
  tag : Option String
  semver : Option String
  semverFilter : Option String
  deriving DecidableEq, Repr

structure DeploymentSpec where
  replicas : Int
  readyReplicas : Int
  updatedReplicas : Int
  availableReplicas : Int
  images : List String
  deriving DecidableEq, Repr

structure PodSpec where
  phase : String
  image : String
  deriving DecidableEq, Repr

structure VolumeClaimSpec where
  storageClass : String
  volumeName : String
  volumeMode : String
  accessModes : List String
  capacity : Dictionary String
  phase : String
  deriving DecidableEq, Repr

inductive Metadata where
  | kustomization (flux : Flux) (spec : KustomizationSpec)
  | helmRelease (flux : Flux) (spec : HelmReleaseSpec)
  | helmChart (flux : Flux)
  | helmRepository (flux : Flux)
  | gitRepository (flux : Flux) (spec : GitRepositorySpec)
  | ociRepository (flux : Flux) (spec : OciRepositorySpec)
  | deployment (spec : DeploymentSpec)
  | pod (spec : PodSpec)
  | persistentVolumeClaim (spec : VolumeClaimSpec)
  /-- Any kind without a variant of its own. -/
  | generic
  deriving DecidableEq, Repr

/-- The part of a text behind its first colon, if it has one. -/
def afterColon? (s : String) : Option String :=
  match s.toList.dropWhile (· != ':') with
  | [] => none
  | _ :: rest => some (String.ofList rest)

/-- The attempted revision without what comes before its first colon. -/
def KustomizationSpec.lastAttemptedHash (spec : KustomizationSpec) : String :=
  (afterColon? spec.lastAttemptedRevision).getD spec.lastAttemptedRevision

/-- The short reference of a Git source: branch, tag, version range, commit or name, the first
that is there. -/
def GitRepositorySpec.code (spec : GitRepositorySpec) : String :=
  match spec.branch, spec.tag, spec.semver, spec.commit, spec.name with
  | some branch, _, _, _, _ => "@" ++ branch
  | none, some tag, _, _, _ => ":" ++ tag
  | none, none, some semver, _, _ => ":" ++ semver
  | none, none, none, some commit, _ => ":" ++ String.ofList (commit.toList.take 8)
  | none, none, none, none, some name => ":" ++ name
  | none, none, none, none, none => ""

/-- The short reference of an artifact source; a digest goes without the name of its algorithm. -/
def OciRepositorySpec.code (spec : OciRepositorySpec) : String :=
  match spec.digest, spec.tag, spec.semver, spec.semverFilter with
  | some digest, _, _, _ => "@" ++ (afterColon? digest).getD digest
  | none, some tag, _, _ => ":" ++ tag
  | none, none, some semver, _ => ":" ++ semver
  | none, none, none, some filter => ":" ++ filter
  | none, none, none, none => ""

namespace Metadata

/-- The reconcile state, of kinds that are reconciled. -/
def flux? : Metadata → Option Flux
  | kustomization flux _ | helmRelease flux _ | helmChart flux | helmRepository flux
  | gitRepository flux _ | ociRepository flux _ => some flux
  | _ => none

/-- The metadata with another reconcile state, where it has one. -/
def withFlux (flux : Flux) : Metadata → Metadata
  | kustomization _ spec => kustomization flux spec
  | helmRelease _ spec => helmRelease flux spec
  | helmChart _ => helmChart flux
  | helmRepository _ => helmRepository flux
  | gitRepository _ spec => gitRepository flux spec
  | ociRepository _ spec => ociRepository flux spec
  | m => m

/-- The source of an application. -/
def sourceRef? : Metadata → Option SourceRef
  | kustomization _ spec => spec.sourceRef
  | helmRelease _ spec => spec.sourceRef
  | _ => none

/-- Address and short reference of a Git or artifact source. -/
def repository? : Metadata → Option (String × String)
  | gitRepository _ spec => some (spec.url, spec.code)
  | ociRepository _ spec => some (spec.url, spec.code)
  | _ => none

end Metadata

end ResourceTree
