import ResourceTree.Tree.Basic
import ResourceTree.Wire.Basic

/-!
# From resource trees to wire records

The record of a tree, with all that decoding reads: the status is always there, the reconcile
state stands in its own block and is repeated in the block of the kind. Log lines are local and
are not part of a record.
-/

namespace ResourceTree.Encode
set_option autoImplicit false

def condition (c : Condition) : Wire.Condition :=
  { lastTransitionTime := c.lastTransitionTime.toText, type := c.type
    status := if c.status then "True" else "False", message := c.message, reason := c.reason }

def event (e : Event) : Wire.Event :=
  { e with
    type := e.type.name
    firstObserved := e.firstObserved.toText
    lastObserved := e.lastObserved.toText }

def sourceRef (r : SourceRef) : Wire.SourceRef :=
  { kind := r.kind, name := r.name, ns := r.ns }

def flux (f : Flux) : Wire.Flux :=
  { lastHandledReconcileAt := f.lastHandledReconcileAt.map (·.toText)
    lastSyncAt := f.lastSyncAt.map (·.toText)
    isSuspended := f.isSuspended
    isReconciling := f.isReconciling }

/-- A record with the block of the kind filled in. -/
def withMetadata (w : Wire.Record) : Metadata → Wire.Record
  | .kustomization f spec =>
    { w with
      kustomization := some
        { path := spec.path, isReconciling := f.isReconciling, isSuspended := f.isSuspended
          sourceRef := spec.sourceRef.map sourceRef
          lastAppliedRevision := spec.lastAppliedRevision
          lastAttemptedRevision := spec.lastAttemptedRevision
          lastHandledReconcileAt := f.lastHandledReconcileAt.map (·.toText)
          dependsOn := spec.dependsOn } }
  | .helmRelease f spec =>
    { w with
      helmRelease := some
        { chartName := spec.chartName, chartVersion := spec.chartVersion
          isReconciling := f.isReconciling, isSuspended := f.isSuspended
          sourceRef := spec.sourceRef.map sourceRef } }
  | .gitRepository _ spec =>
    { w with
      gitRepository := some
        { url := spec.url, branch := spec.branch, tag := spec.tag, semver := spec.semver
          name := spec.name, commit := spec.commit } }
  | .ociRepository _ spec =>
    { w with
      ociRepository := some
        { url := spec.url, digest := spec.digest, tag := spec.tag, semver := spec.semver
          semverFilter := spec.semverFilter } }
  | .deployment spec =>
    { w with
      deployment := some
        { replicas := spec.replicas, readyReplicas := spec.readyReplicas
          updatedReplicas := spec.updatedReplicas, availableReplicas := spec.availableReplicas
          images := spec.images } }
  | .pod spec => { w with pod := some { phase := spec.phase, image := spec.image } }
  | .persistentVolumeClaim spec =>
    { w with
      volumeClaim := some
        { storageClass := spec.storageClass, volumeName := spec.volumeName
          volumeMode := spec.volumeMode, accessModes := spec.accessModes
          capacity := spec.capacity, phase := spec.phase } }
  | .helmChart _ | .helmRepository _ | .generic => w

/-- The record of a resource. -/
def record (r : Resource) : Wire.Record :=
  withMetadata
    { uid := r.uid, name := r.name, kind := r.kind, version := r.apiVersion, group := r.group
      resource := r.resourceName, ns := r.ns, parentId := r.parentId
      createdAt := r.createdAt.toText, deletedAt := r.deletedAt.map (·.toText)
      annotations := r.annotations, labels := r.labels, status := some r.status.name
      conditions := r.conditions.map condition, events := r.events.map event
      isFluxManaged := r.isFluxManaged, flux := r.metadata.flux?.map flux }
    r.metadata

mutual

/-- The record of a tree. -/
def node : Tree → Wire.Node
  | .node r cs => .node (record r) (nodes cs)

def nodes : List Tree → List Wire.Node
  | [] => []
  | t :: rest => node t :: nodes rest

end

end ResourceTree.Encode
