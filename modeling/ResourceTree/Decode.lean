import ResourceTree.Tree.Basic
import ResourceTree.Wire.Basic

/-!
# From wire records to resource trees

A node record is taken for a tree when all of its parts are well-formed; otherwise the first
malformed part is reported, in the order metadata, status, times, children, conditions, events.
Every child is given the uid of the node that holds it as its parent.
-/

namespace ResourceTree
set_option autoImplicit false

/-- Why a record is refused. -/
inductive DecodeError where
  | timestamp (field value : String)
  | unknownStatus (status : String)
  deriving DecidableEq, Repr

namespace Decode

/-- Absent instead of empty. -/
def nonEmpty (s : Option String) : Option String := s.filter (· ≠ "")

/-- The instant that a field holds. -/
def time (field value : String) : Except DecodeError Instant :=
  match Instant.ofText? value with
  | some t => .ok t
  | none => .error (.timestamp field value)

/-- The instant of an optional field; an empty text and any time up to the end of year one count
as absent. -/
def optionalTime (field : String) (value : Option String) : Except DecodeError (Option Instant) :=
  match nonEmpty value with
  | none => .ok none
  | some v => do
    let t ← time field v
    return if t.year > 1 then some t else none

/-- The status of a name; absent and empty are unknown. -/
def status (name : Option String) : Except DecodeError Status :=
  match nonEmpty name with
  | none => .ok .unknown
  | some s => match Status.ofName? s with
    | some status => .ok status
    | none => .error (.unknownStatus s)

def condition (w : Wire.Condition) : Except DecodeError Condition := do
  let lastTransitionTime ← time "lastTransitionTime" w.lastTransitionTime
  return { lastTransitionTime, type := w.type, status := w.status = "True", message := w.message,
           reason := w.reason }

def event (w : Wire.Event) : Except DecodeError Event := do
  let firstObserved ← time "firstObserved" w.firstObserved
  let lastObserved ← time "lastObserved" w.lastObserved
  return { w with type := .ofWord w.type, firstObserved, lastObserved }

/-- A log line and the uid of its pod. -/
def log (w : Wire.Log) : Except DecodeError (String × LogLine) := do
  let timestamp ← time "timestamp" w.timestamp
  return (w.uid, { timestamp, container := w.container, text := w.log })

/-- Reconcile state from its own block, joined with what the block of the kind says. -/
def flux (own : Wire.Flux) (reconciling suspended : Bool) (handledAt : Option String) :
    Except DecodeError Flux := do
  let first ← optionalTime "fluxMetadata.lastHandledReconcileAt" own.lastHandledReconcileAt
  let handled ← match first with
    | some t => pure (some t)
    | none => optionalTime "lastHandledReconcileAt" handledAt
  let lastSyncAt ← optionalTime "fluxMetadata.lastSyncAt" own.lastSyncAt
  return { isReconciling := own.isReconciling || reconciling
           isSuspended := own.isSuspended || suspended
           lastHandledReconcileAt := handled
           lastSyncAt }

/-- A source reference; one without kind and name is none. -/
def sourceRef (w : Option Wire.SourceRef) : Option SourceRef :=
  (w.filter fun r => r.kind ≠ "" || r.name ≠ "").map fun r =>
    { kind := r.kind, name := r.name, ns := nonEmpty r.ns }

/-- The metadata variant that the kind selects. -/
def metadata (w : Wire.Record) : Except DecodeError Metadata :=
  let own := w.flux.getD {}
  match Kind.ofName? w.kind with
  | some .kustomization =>
    let k := w.kustomization.getD {}
    (flux own k.isReconciling k.isSuspended k.lastHandledReconcileAt).map fun state =>
      .kustomization state
        { path := k.path, sourceRef := sourceRef k.sourceRef
          lastAppliedRevision := k.lastAppliedRevision
          lastAttemptedRevision := k.lastAttemptedRevision, dependsOn := k.dependsOn }
  | some .helmRelease =>
    let h := w.helmRelease.getD {}
    (flux own h.isReconciling h.isSuspended none).map fun state =>
      .helmRelease state
        { chartName := h.chartName, chartVersion := h.chartVersion
          sourceRef := sourceRef h.sourceRef }
  | some .helmChart => (flux own false false none).map .helmChart
  | some .helmRepository => (flux own false false none).map .helmRepository
  | some .gitRepository =>
    let g := w.gitRepository.getD {}
    (flux own false false none).map fun state =>
      .gitRepository state
        { url := g.url, branch := nonEmpty g.branch, tag := nonEmpty g.tag
          semver := nonEmpty g.semver, name := nonEmpty g.name, commit := nonEmpty g.commit }
  | some .ociRepository =>
    let o := w.ociRepository.getD {}
    (flux own false false none).map fun state =>
      .ociRepository state
        { url := o.url, digest := nonEmpty o.digest, tag := nonEmpty o.tag
          semver := nonEmpty o.semver, semverFilter := nonEmpty o.semverFilter }
  | some .deployment =>
    let d := w.deployment.getD {}
    .ok (.deployment
      { replicas := d.replicas, readyReplicas := d.readyReplicas
        updatedReplicas := d.updatedReplicas, availableReplicas := d.availableReplicas
        images := d.images })
  | some .pod =>
    let p := w.pod.getD {}
    .ok (.pod { phase := p.phase, image := p.image })
  | some .persistentVolumeClaim =>
    let c := w.volumeClaim.getD {}
    .ok (.persistentVolumeClaim
      { storageClass := c.storageClass, volumeName := c.volumeName, volumeMode := c.volumeMode
        accessModes := c.accessModes, capacity := c.capacity, phase := c.phase })
  | _ => .ok .generic

/-- The parts of a record that come before its children. -/
structure Head where
  metadata : Metadata
  status : Status
  createdAt : Instant
  deletedAt : Option Instant

def head (w : Wire.Record) : Except DecodeError Head := do
  let metadata ← Decode.metadata w
  let status ← Decode.status w.status
  let createdAt ← time "createdAt" w.createdAt
  let deletedAt ← optionalTime "deletedAt" w.deletedAt
  return { metadata, status, createdAt, deletedAt }

/-- The resource of a record whose parts have been decoded. -/
def resource (w : Wire.Record) (parentId : Option String) (h : Head)
    (conditions : List Condition) (events : List Event) : Resource :=
  { uid := w.uid, name := w.name, kind := w.kind, apiVersion := nonEmpty w.version
    group := nonEmpty w.group, resourceName := nonEmpty w.resource, ns := nonEmpty w.ns
    createdAt := h.createdAt, deletedAt := h.deletedAt, annotations := w.annotations
    labels := w.labels, status := h.status, conditions, events, logs := []
    isFluxManaged := w.isFluxManaged, metadata := h.metadata, parentId }

mutual

/-- A node record below a given parent. -/
def under (parentId : Option String) : Wire.Node → Except DecodeError Tree
  | .node w cs => do
    let h ← head w
    let children ← underAll (some w.uid) cs
    let conditions ← w.conditions.mapM condition
    let events ← w.events.mapM event
    return .node (resource w parentId h conditions events) children

def underAll (parentId : Option String) : List Wire.Node → Except DecodeError (List Tree)
  | [] => .ok []
  | n :: rest => do
    let t ← under parentId n
    let ts ← underAll parentId rest
    return t :: ts

end

/-- A node record; its own parent is the one that it names. -/
def node (w : Wire.Node) : Except DecodeError Tree := under w.parent w

end Decode

end ResourceTree
