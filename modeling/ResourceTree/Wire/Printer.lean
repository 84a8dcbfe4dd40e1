import ResourceTree.Json.Value
import ResourceTree.Wire.Basic

/-!
# Writing wire records

Each record as a JSON object with its fields in order; optional fields that are absent are left
out.
-/

namespace ResourceTree.Wire
set_option autoImplicit false

open Json (Value)

/-- Members that are always written, or only where there is a value. -/
abbrev Members := List (String × Value)

def optionalText (name : String) : Option String → Members
  | none => []
  | some s => [(name, .text s)]

def optionalRecord {α : Type} (name : String) (toValue : α → Value) : Option α → Members
  | none => []
  | some a => [(name, toValue a)]

def textList (items : List String) : Value := .array (items.map .text)

def textDictionary (d : Dictionary String) : Value :=
  .object (d.map fun e => (e.1, .text e.2))

def integer (n : Int) : Value := .number (.whole n)

def Condition.toValue (c : Condition) : Value :=
  .object [("lastTransitionTime", .text c.lastTransitionTime), ("type", .text c.type),
    ("status", .text c.status), ("message", .text c.message), ("reason", .text c.reason)]

def Event.toValue (e : Event) : Value :=
  .object [("uid", .text e.uid), ("kind", .text e.kind), ("name", .text e.name),
    ("namespace", .text e.ns), ("reason", .text e.reason), ("message", .text e.message),
    ("source", .text e.source), ("type", .text e.type), ("firstObserved", .text e.firstObserved),
    ("lastObserved", .text e.lastObserved), ("count", integer e.count),
    ("resourceUID", .text e.resourceUid)]

def SourceRef.toValue (r : SourceRef) : Value :=
  .object ([("kind", .text r.kind), ("name", .text r.name)] ++ optionalText "namespace" r.ns)

def Flux.toValue (f : Flux) : Value :=
  .object (optionalText "lastHandledReconcileAt" f.lastHandledReconcileAt
    ++ optionalText "lastSyncAt" f.lastSyncAt
    ++ [("isSuspended", .bool f.isSuspended), ("isReconciling", .bool f.isReconciling)])

def Kustomization.toValue (k : Kustomization) : Value :=
  .object ([("path", .text k.path), ("isReconciling", .bool k.isReconciling),
      ("isSuspended", .bool k.isSuspended)]
    ++ optionalRecord "sourceRef" SourceRef.toValue k.sourceRef
    ++ [("lastAppliedRevision", .text k.lastAppliedRevision),
      ("lastAttemptedRevision", .text k.lastAttemptedRevision)]
    ++ optionalText "lastHandledReconcileAt" k.lastHandledReconcileAt
    ++ [("dependsOn", textList k.dependsOn)])

def HelmRelease.toValue (h : HelmRelease) : Value :=
  .object ([("chartName", .text h.chartName), ("chartVersion", .text h.chartVersion),
      ("isReconciling", .bool h.isReconciling), ("isSuspended", .bool h.isSuspended)]
    ++ optionalRecord "sourceRef" SourceRef.toValue h.sourceRef)

def GitRepository.toValue (g : GitRepository) : Value :=
  .object ([("url", .text g.url)] ++ optionalText "branch" g.branch ++ optionalText "tag" g.tag
    ++ optionalText "semver" g.semver ++ optionalText "name" g.name
    ++ optionalText "commit" g.commit)

def OciRepository.toValue (o : OciRepository) : Value :=
  .object ([("url", .text o.url)] ++ optionalText "digest" o.digest ++ optionalText "tag" o.tag
    ++ optionalText "semver" o.semver ++ optionalText "semverFilter" o.semverFilter)

def Deployment.toValue (d : Deployment) : Value :=
  .object [("replicas", integer d.replicas), ("readyReplicas", integer d.readyReplicas),
    ("updatedReplicas", integer d.updatedReplicas),
    ("availableReplicas", integer d.availableReplicas), ("images", textList d.images)]

def Pod.toValue (p : Pod) : Value :=
  .object [("phase", .text p.phase), ("image", .text p.image)]

def VolumeClaim.toValue (c : VolumeClaim) : Value :=
  .object [("storageClass", .text c.storageClass), ("volumeName", .text c.volumeName),
    ("volumeMode", .text c.volumeMode), ("accessModes", textList c.accessModes),
    ("capacity", textDictionary c.capacity), ("phase", .text c.phase)]

/-- The members before the children. -/
def Record.leading (r : Record) : Members :=
  [("uid", .text r.uid), ("name", .text r.name), ("kind", .text r.kind)]
    ++ optionalText "version" r.version ++ optionalText "group" r.group
    ++ optionalText "resource" r.resource ++ optionalText "namespace" r.ns
    ++ optionalText "parentId" r.parentId
    ++ (if r.parentIds.isEmpty then [] else [("parentIDs", textList r.parentIds)])
    ++ [("createdAt", .text r.createdAt)] ++ optionalText "deletedAt" r.deletedAt
    ++ [("annotations", textDictionary r.annotations), ("labels", textDictionary r.labels)]
    ++ optionalText "status" r.status
    ++ [("conditions", .array (r.conditions.map Condition.toValue)),
      ("events", .array (r.events.map Event.toValue)), ("isFluxManaged", .bool r.isFluxManaged)]

/-- The members behind the children. -/
def Record.trailing (r : Record) : Members :=
  optionalRecord "fluxMetadata" Flux.toValue r.flux
    ++ optionalRecord "kustomizationMetadata" Kustomization.toValue r.kustomization
    ++ optionalRecord "helmReleaseMetadata" HelmRelease.toValue r.helmRelease
    ++ optionalRecord "gitRepositoryMetadata" GitRepository.toValue r.gitRepository
    ++ optionalRecord "ociRepositoryMetadata" OciRepository.toValue r.ociRepository
    ++ optionalRecord "deploymentMetadata" Deployment.toValue r.deployment
    ++ optionalRecord "podMetadata" Pod.toValue r.pod
    ++ optionalRecord "pvcMetadata" VolumeClaim.toValue r.volumeClaim

mutual

def Node.toValue : Node → Value
  | .node r cs => .object (r.leading ++ [("children", .array (Node.toValues cs))] ++ r.trailing)

def Node.toValues : List Node → List Value
  | [] => []
  | n :: rest => n.toValue :: Node.toValues rest

end

end ResourceTree.Wire
