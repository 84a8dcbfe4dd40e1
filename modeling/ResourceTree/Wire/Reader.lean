import ResourceTree.Json.Reader
import ResourceTree.Wire.Basic

/-!
# Reading wire records

The shape of each record: its field names in order, which of them must be there, and what stands
for those that may be absent. Unknown fields are passed over.
-/

namespace ResourceTree.Wire
set_option autoImplicit false

open Json (Reader Fields Placed RecordShape Fault Document)

/-- A condition: time, type and status must be there. -/
def Condition.shape : RecordShape :=
  { title := "WireCondition",
    names := ["lastTransitionTime", "type", "status", "message", "reason"] }

def Condition.read : Reader Condition :=
  Condition.shape.reader fun s =>
    Condition.mk <$> s.required "lastTransitionTime" Reader.text <*> s.required "type" Reader.text
      <*> s.required "status" Reader.text <*> s.text "message" <*> s.text "reason"

def Event.shape : RecordShape :=
  { title := "WireEvent"
    names := ["uid", "kind", "name", "namespace", "reason", "message", "source", "type",
      "firstObserved", "lastObserved", "count", "resourceUID"] }

def Event.read : Reader Event :=
  Event.shape.reader fun s =>
    Event.mk <$> s.required "uid" Reader.text <*> s.text "kind" <*> s.text "name"
      <*> s.text "namespace" <*> s.text "reason" <*> s.text "message" <*> s.text "source"
      <*> s.text "type" <*> s.required "firstObserved" Reader.text
      <*> s.required "lastObserved" Reader.text <*> s.withDefault "count" Reader.int32 0
      <*> s.text "resourceUID"

/-- A log line; its text may also be called a message. -/
def Log.shape : RecordShape :=
  { title := "WireLog", names := ["uid", "log", "timestamp", "container"],
    aliases := [("message", "log")] }

def Log.read : Reader Log :=
  Log.shape.reader fun s =>
    Log.mk <$> s.required "uid" Reader.text <*> s.required "log" Reader.text
      <*> s.required "timestamp" Reader.text <*> s.text "container"

def SourceRef.shape : RecordShape :=
  { title := "WireSourceRef", names := ["kind", "name", "namespace"] }

def SourceRef.read : Reader SourceRef :=
  SourceRef.shape.reader fun s =>
    SourceRef.mk <$> s.text "kind" <*> s.text "name" <*> s.optional "namespace" Reader.text

def Flux.shape : RecordShape :=
  { title := "WireFluxMetadata"
    names := ["lastHandledReconcileAt", "lastSyncAt", "isSuspended", "isReconciling"] }

def Flux.read : Reader Flux :=
  Flux.shape.reader fun s =>
    Flux.mk <$> s.optional "lastHandledReconcileAt" Reader.text
      <*> s.optional "lastSyncAt" Reader.text <*> s.flag "isSuspended" <*> s.flag "isReconciling"

def Kustomization.shape : RecordShape :=
  { title := "WireKustomizationMetadata"
    names := ["path", "isReconciling", "isSuspended", "sourceRef", "lastAppliedRevision",
      "lastAttemptedRevision", "lastHandledReconcileAt", "dependsOn"] }

def Kustomization.read : Reader Kustomization :=
  Kustomization.shape.reader fun s =>
    Kustomization.mk <$> s.text "path" <*> s.flag "isReconciling" <*> s.flag "isSuspended"
      <*> s.optional "sourceRef" SourceRef.read <*> s.text "lastAppliedRevision"
      <*> s.text "lastAttemptedRevision" <*> s.optional "lastHandledReconcileAt" Reader.text
      <*> s.list "dependsOn" Reader.text

def HelmRelease.shape : RecordShape :=
  { title := "WireHelmReleaseMetadata"
    names := ["chartName", "chartVersion", "isReconciling", "isSuspended", "sourceRef"] }

def HelmRelease.read : Reader HelmRelease :=
  HelmRelease.shape.reader fun s =>
    HelmRelease.mk <$> s.text "chartName" <*> s.text "chartVersion" <*> s.flag "isReconciling"
      <*> s.flag "isSuspended" <*> s.optional "sourceRef" SourceRef.read

def GitRepository.shape : RecordShape :=
  { title := "WireGitRepositoryMetadata"
    names := ["url", "branch", "tag", "semver", "name", "commit"] }

def GitRepository.read : Reader GitRepository :=
  GitRepository.shape.reader fun s =>
    GitRepository.mk <$> s.text "url" <*> s.optional "branch" Reader.text
      <*> s.optional "tag" Reader.text <*> s.optional "semver" Reader.text
      <*> s.optional "name" Reader.text <*> s.optional "commit" Reader.text

def OciRepository.shape : RecordShape :=
  { title := "WireOciRepositoryMetadata"
    names := ["url", "digest", "tag", "semver", "semverFilter"] }

def OciRepository.read : Reader OciRepository :=
  OciRepository.shape.reader fun s =>
    OciRepository.mk <$> s.text "url" <*> s.optional "digest" Reader.text
      <*> s.optional "tag" Reader.text <*> s.optional "semver" Reader.text
      <*> s.optional "semverFilter" Reader.text

def Deployment.shape : RecordShape :=
  { title := "WireDeploymentMetadata"
    names := ["replicas", "readyReplicas", "updatedReplicas", "availableReplicas", "images"] }

def Deployment.read : Reader Deployment :=
  Deployment.shape.reader fun s =>
    Deployment.mk <$> s.withDefault "replicas" Reader.int32 0
      <*> s.withDefault "readyReplicas" Reader.int32 0
      <*> s.withDefault "updatedReplicas" Reader.int32 0
      <*> s.withDefault "availableReplicas" Reader.int32 0 <*> s.list "images" Reader.text

def Pod.shape : RecordShape :=
  { title := "WirePodMetadata", names := ["phase", "image"] }

def Pod.read : Reader Pod :=
  Pod.shape.reader fun s => Pod.mk <$> s.text "phase" <*> s.text "image"

def VolumeClaim.shape : RecordShape :=
  { title := "WirePvcMetadata"
    names := ["storageClass", "volumeName", "volumeMode", "accessModes", "capacity", "phase"] }

def VolumeClaim.read : Reader VolumeClaim :=
  VolumeClaim.shape.reader fun s =>
    VolumeClaim.mk <$> s.text "storageClass" <*> s.text "volumeName" <*> s.text "volumeMode"
      <*> s.list "accessModes" Reader.text <*> s.dictionary "capacity" Reader.text
      <*> s.text "phase"

/-- A node record: uid and time of creation must be there. -/
def Node.shape : RecordShape :=
  { title := "WireNode"
    names := ["uid", "name", "kind", "version", "group", "resource", "namespace", "parentId",
      "parentIDs", "createdAt", "deletedAt", "annotations", "labels", "status", "conditions",
      "events", "isFluxManaged", "children", "fluxMetadata", "kustomizationMetadata",
      "helmReleaseMetadata", "gitRepositoryMetadata", "ociRepositoryMetadata",
      "deploymentMetadata", "podMetadata", "pvcMetadata"] }

/-- The fields of a node record other than its children. -/
def Record.ofFields (s : Fields) : Placed Record :=
  Record.mk <$> s.required "uid" Reader.text <*> s.text "name" <*> s.text "kind"
    <*> s.optional "version" Reader.text <*> s.optional "group" Reader.text
    <*> s.optional "resource" Reader.text <*> s.optional "namespace" Reader.text
    <*> s.optional "parentId" Reader.text <*> s.list "parentIDs" Reader.text
    <*> s.required "createdAt" Reader.text <*> s.optional "deletedAt" Reader.text
    <*> s.dictionary "annotations" Reader.text <*> s.dictionary "labels" Reader.text
    <*> s.optional "status" Reader.text <*> s.list "conditions" Condition.read
    <*> s.list "events" Event.read <*> s.flag "isFluxManaged"
    <*> s.optional "fluxMetadata" Flux.read
    <*> s.optional "kustomizationMetadata" Kustomization.read
    <*> s.optional "helmReleaseMetadata" HelmRelease.read
    <*> s.optional "gitRepositoryMetadata" GitRepository.read
    <*> s.optional "ociRepositoryMetadata" OciRepository.read
    <*> s.optional "deploymentMetadata" Deployment.read <*> s.optional "podMetadata" Pod.read
    <*> s.optional "pvcMetadata" VolumeClaim.read

/-- A node record whose children nest at most `levels` deep. -/
def Node.readLevels : Nat → Reader Node
  | 0 => fun _ => .error .tooDeep
  | levels + 1 =>
    Node.shape.reader fun s =>
      Node.node <$> Record.ofFields s <*> s.list "children" (readLevels levels)

/-- A node record. A document nests no deeper than it is deep, so the levels never run out. -/
def Node.read : Reader Node := fun d => Node.readLevels (d.depth + 1) d

def NodeRef.shape : RecordShape :=
  { title := "WireNodeRef", names := ["uid", "parentId", "parentIDs"] }

/-- The address in a node record. -/
def NodeRef.read : Reader NodeRef :=
  NodeRef.shape.reader fun s =>
    NodeRef.mk <$> s.required "uid" Reader.text <*> s.optional "parentId" Reader.text
      <*> s.list "parentIDs" Reader.text

end ResourceTree.Wire
