import ResourceTree.Proofs.Json.Shapes
import ResourceTree.Wire.Reader

/-!
# Wire records are read fairly

Each reader asks for every field that its shape names. A record that is taken has no fault in any
field, and one that is refused is refused in one line.
-/

namespace ResourceTree.Wire
set_option autoImplicit false

open Json (Fields Reader)
open Json.Fields (reads_dictionary reads_flag reads_list reads_optional reads_required reads_text
  reads_withDefault)
open Json.Reader (Fair fair_flag fair_int32 fair_text)
open Json.RecordShape (fair_reader)

/-- A condition is read fairly. -/
theorem fair_condition : Fair Condition.read :=
  fair_reader (by decide)
    (fun _ => (reads_required fair_text (by decide)).map _ |>.seq (reads_required fair_text (by decide))
      |>.seq (reads_required fair_text (by decide)) |>.seq reads_text |>.seq reads_text)
    (by decide)

theorem fair_event : Fair Event.read :=
  fair_reader (by decide)
    (fun _ => (reads_required fair_text (by decide)).map _ |>.seq reads_text |>.seq reads_text
      |>.seq reads_text |>.seq reads_text |>.seq reads_text |>.seq reads_text |>.seq reads_text
      |>.seq (reads_required fair_text (by decide)) |>.seq (reads_required fair_text (by decide))
      |>.seq (reads_withDefault fair_int32 0) |>.seq reads_text)
    (by decide)

theorem fair_log : Fair Log.read :=
  fair_reader (by decide)
    (fun _ => (reads_required fair_text (by decide)).map _ |>.seq (reads_required fair_text (by decide))
      |>.seq (reads_required fair_text (by decide)) |>.seq reads_text)
    (by decide)

theorem fair_sourceRef : Fair SourceRef.read :=
  fair_reader (by decide)
    (fun _ => reads_text.map _ |>.seq reads_text |>.seq (reads_optional fair_text))
    (by decide)

/-- The state of reconciliation is read fairly. -/
theorem fair_flux : Fair Flux.read :=
  fair_reader (by decide)
    (fun _ => (reads_optional fair_text).map _ |>.seq (reads_optional fair_text) |>.seq reads_flag
      |>.seq reads_flag)
    (by decide)

theorem fair_kustomization : Fair Kustomization.read :=
  fair_reader (by decide)
    (fun _ => reads_text.map _ |>.seq reads_flag |>.seq reads_flag
      |>.seq (reads_optional fair_sourceRef) |>.seq reads_text |>.seq reads_text
      |>.seq (reads_optional fair_text) |>.seq (reads_list fair_text))
    (by decide)

theorem fair_helmRelease : Fair HelmRelease.read :=
  fair_reader (by decide)
    (fun _ => reads_text.map _ |>.seq reads_text |>.seq reads_flag |>.seq reads_flag
      |>.seq (reads_optional fair_sourceRef))
    (by decide)

theorem fair_gitRepository : Fair GitRepository.read :=
  fair_reader (by decide)
    (fun _ => reads_text.map _ |>.seq (reads_optional fair_text) |>.seq (reads_optional fair_text)
      |>.seq (reads_optional fair_text) |>.seq (reads_optional fair_text)
      |>.seq (reads_optional fair_text))
    (by decide)

theorem fair_ociRepository : Fair OciRepository.read :=
  fair_reader (by decide)
    (fun _ => reads_text.map _ |>.seq (reads_optional fair_text) |>.seq (reads_optional fair_text)
      |>.seq (reads_optional fair_text) |>.seq (reads_optional fair_text))
    (by decide)

theorem fair_deployment : Fair Deployment.read :=
  fair_reader (by decide)
    (fun _ => (reads_withDefault fair_int32 0).map _ |>.seq (reads_withDefault fair_int32 0)
      |>.seq (reads_withDefault fair_int32 0) |>.seq (reads_withDefault fair_int32 0)
      |>.seq (reads_list fair_text))
    (by decide)

theorem fair_pod : Fair Pod.read :=
  fair_reader (by decide) (fun _ => reads_text.map _ |>.seq reads_text) (by decide)

/-- A claim is read fairly, with its capacities. -/
theorem fair_volumeClaim : Fair VolumeClaim.read :=
  fair_reader (by decide)
    (fun _ => reads_text.map _ |>.seq reads_text |>.seq reads_text |>.seq (reads_list fair_text)
      |>.seq (reads_dictionary fair_text) |>.seq reads_text)
    (by decide)

/-- The fields of a node record other than its children. -/
def recordNames : List String :=
  ["uid", "name", "kind", "version", "group", "resource", "namespace", "parentId", "parentIDs",
    "createdAt", "deletedAt", "annotations", "labels", "status", "conditions", "events",
    "isFluxManaged", "fluxMetadata", "kustomizationMetadata", "helmReleaseMetadata",
    "gitRepositoryMetadata", "ociRepositoryMetadata", "deploymentMetadata", "podMetadata",
    "pvcMetadata"]

/-- The record of a node asks for each of its fields once. -/
theorem reads_record (s : Fields) : s.Reads recordNames (Record.ofFields s) :=
  .mono ((reads_required fair_text (by decide)).map _ |>.seq reads_text |>.seq reads_text
      |>.seq (reads_optional fair_text) |>.seq (reads_optional fair_text)
      |>.seq (reads_optional fair_text) |>.seq (reads_optional fair_text)
      |>.seq (reads_optional fair_text) |>.seq (reads_list fair_text)
      |>.seq (reads_required fair_text (by decide)) |>.seq (reads_optional fair_text)
      |>.seq (reads_dictionary fair_text) |>.seq (reads_dictionary fair_text)
      |>.seq (reads_optional fair_text) |>.seq (reads_list fair_condition)
      |>.seq (reads_list fair_event) |>.seq reads_flag |>.seq (reads_optional fair_flux)
      |>.seq (reads_optional fair_kustomization) |>.seq (reads_optional fair_helmRelease)
      |>.seq (reads_optional fair_gitRepository) |>.seq (reads_optional fair_ociRepository)
      |>.seq (reads_optional fair_deployment) |>.seq (reads_optional fair_pod)
      |>.seq (reads_optional fair_volumeClaim)) (by decide)

/-- A node record is read from the fields of its own record and its children. -/
theorem reads_node {levels : Nat} (below : Fair (Node.readLevels levels)) (s : Fields) :
    s.Reads (recordNames ++ ["children"])
      (Node.node <$> Record.ofFields s <*> s.list "children" (Node.readLevels levels)) :=
  (reads_record s).map _ |>.seq (reads_list below)

/-- Nodes are read fairly down to any level. -/
theorem fair_readLevels (levels : Nat) : Fair (Node.readLevels levels) := by
  induction levels with
  | zero => exact ⟨nofun, fun _ => .error (Json.Fault.clean_of_isSyntax rfl)⟩
  | succ levels ih =>
    exact fair_reader (by decide) (reads_node ih) (by decide)

/-- A node is read fairly, with all that stands below it. -/
theorem fair_node : Fair Node.read where
  whole h := (fair_readLevels _).whole h
  clean clean := (fair_readLevels _).clean clean

/-- An address is read fairly, although most members of a record are passed over for it. -/
theorem fair_nodeRef : Fair NodeRef.read :=
  fair_reader (by decide)
    (fun _ => (reads_required fair_text (by decide)).map _ |>.seq (reads_optional fair_text)
      |>.seq (reads_list fair_text))
    (by decide)

end ResourceTree.Wire
