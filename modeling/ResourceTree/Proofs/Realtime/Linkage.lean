import ResourceTree.Proofs.History
import ResourceTree.Proofs.Realtime.Frames
import ResourceTree.Proofs.Tree.Linkage
import ResourceTree.Proofs.Wire.RoundTrip
import ResourceTree.Realtime.Run

/-!
# Parent links under frames

A record says of nested children under which parent they stand, in two fields, and may be wrong;
decoding goes by where they are nested. So the trees in frames are linked within themselves, and no
record names a parent without uid. `parentsLinked_run` follows a router through all that it can take
in: the links in its tree are right at every stage, if every snapshot that it took has a root with a
uid.
-/

namespace ResourceTree
set_option autoImplicit false

/-- Whether a frame was taken for a snapshot. -/
def Outcome.isSnapshot : Outcome → Bool
  | .treeReplaced _ => true
  | .delta .. | .logAppended | .event .. | .connected _ | .heartbeat | .ignored _ | .dropped _ =>
    false

namespace Decode

mutual

/-- A decoded tree is linked, whatever parents its nested records name. -/
theorem under_linked {parentId : Option String} {w : Wire.Node} {t : Tree}
    (h : under parentId w = .ok t) : t.ParentsLinked := by
  cases w with
  | node w cs =>
    obtain ⟨_, -, h⟩ := bind_eq_ok.1 h
    obtain ⟨children, readChildren, h⟩ := bind_eq_ok.1 h
    obtain ⟨_, -, h⟩ := bind_eq_ok.1 h
    obtain ⟨_, -, h⟩ := bind_eq_ok.1 h
    cases pure_eq_ok.1 h
    exact Tree.parentsLinked_node.2 (underAll_linked readChildren)

theorem underAll_linked {uid : String} {ws : List Wire.Node} {ts : List Tree}
    (h : underAll (some uid) ws = .ok ts) : Tree.LinkedBelow uid ts := by
  cases ws with
  | nil =>
    cases h
    exact List.forall_mem_nil _
  | cons w ws =>
    obtain ⟨t, here, h⟩ := bind_eq_ok.1 h
    obtain ⟨rest, there, h⟩ := bind_eq_ok.1 h
    cases pure_eq_ok.1 h
    exact Tree.linkedBelow_cons.2 ⟨⟨under_parent here, under_linked here⟩, underAll_linked there⟩

end

/-- In a decoded tree every node names its parent. -/
theorem node_linked {w : Wire.Node} {t : Tree} (h : node w = .ok t) : t.ParentsLinked :=
  under_linked h

theorem parentOf_ne_blank (parentId : Option String) (parentIds : List String) :
    Wire.parentOf parentId parentIds ≠ some "" := by
  intro blank
  exact absurd rfl (of_decide_eq_true (Option.filter_eq_some_iff.1 blank).2)

/-- No decoded tree names the empty uid as its parent. -/
theorem node_parent_ne_blank {w : Wire.Node} {t : Tree} (h : node w = .ok t) :
    t.resource.parentId ≠ some "" := by
  rw [under_parent h]
  exact parentOf_ne_blank _ _

end Decode

namespace Router

/-- A tree that came with a frame is what some record is decoded to. -/
theorem exists_node_of_deltaTree {message : Json.Value} {t : Tree}
    (h : deltaTree message = .ok t) : ∃ w, Decode.node w = .ok t := by
  obtain ⟨w, -, decoded⟩ := bind_eq_ok.1 h
  exact ⟨w, mapError_eq_ok.1 decoded⟩

theorem exists_node_of_snapshotOf {message : Json.Value} {t : Tree}
    (h : snapshotOf message = .ok t) : ∃ w, Decode.node w = .ok t := by
  unfold snapshotOf at h
  split at h
  · obtain ⟨w, -, decoded⟩ := bind_eq_ok.1 h
    exact ⟨w, mapError_eq_ok.1 decoded⟩
  · exact exists_node_of_deltaTree h

/-- Deltas in frames fit: they name no parent without uid and bring linked trees. -/
theorem fits_of_decoded {message : Json.Value} {op : DeltaOp} {d : Delta}
    (h : d.Decoded message op) : Store.Fits d := by
  cases h with
  | add decoded =>
    obtain ⟨w, read⟩ := exists_node_of_deltaTree decoded
    refine ⟨Decode.node_parent_ne_blank read, ?_⟩
    rintro t ⟨⟩
    exact Decode.node_linked read
  | update decoded =>
    obtain ⟨w, read⟩ := exists_node_of_deltaTree decoded
    exact ⟨Decode.node_parent_ne_blank read, fun _ add => by cases add⟩
  | remove read => exact ⟨Decode.parentOf_ne_blank _ _, fun _ add => by cases add⟩

/-- What a frame does keeps the tree linked, as long as a snapshot has a uid. -/
theorem Routed.wellRooted {r r' : Router} {o : Outcome} (h : Routed r r' o)
    (rooted : r.store.tree.WellRooted) (named : o.isSnapshot = true → r'.store.tree.uid ≠ "") :
    r'.store.tree.WellRooted := by
  cases h with
  | @treeReplaced _ t decoded =>
    obtain ⟨w, read⟩ := exists_node_of_snapshotOf decoded
    have root : t.uid ≠ "" := by
      have there : (r.store.replaceTree t).tree.uid ≠ "" := named rfl
      rwa [Store.replaceTree, Store.dropStaleSelection_tree] at there
    exact r.store.replaceTree_wellRooted (Decode.node_linked read) root
  | delta decoded => exact Store.apply_wellRooted rooted (fits_of_decoded decoded)
  | @logAppended uid line store _ appended =>
    have kept := Store.perform_wellRooted rooted (o := .appendLog uid line) rfl
    rwa [Store.perform_of_appended appended] at kept
  | event | connected | heartbeat | ignored | dropped => exact rooted

/-- A signal that is no snapshot, or one whose root has a uid. -/
def SnapshotNamed (r : Router) : Signal → Prop
  | .frame raw =>
    (r.handleText raw).2.isSnapshot = true → (r.handleText raw).1.store.tree.uid ≠ ""
  | .connection _ | .operation .. => True

instance (r : Router) (x : Signal) : Decidable (r.SnapshotNamed x) := by
  unfold SnapshotNamed
  split <;> infer_instance

/-- So does every other signal. -/
theorem receive_wellRooted {r : Router} {x : Signal} (rooted : r.store.tree.WellRooted)
    (named : r.SnapshotNamed x) : (r.receive x).store.tree.WellRooted := by
  cases x with
  | frame raw => exact (handleText_routed r raw).wellRooted rooted named
  | connection state =>
    rw [receive, onConnection_store]
    exact rooted
  | operation o here => exact Store.perform_wellRooted rooted here

/-- Whatever a router takes in, at every stage each node below the root names as its parent the node
under which it stands, if every snapshot that was taken has a root with a uid. -/
theorem parentsLinked_run (ns : String) (buffer : Nat) (events : EventLog) (signals : List Signal)
    (named : Along receive SnapshotNamed (start (.empty ns buffer) events) signals)
    {stage : List Signal} (part : stage <+: signals) :
    ((start (.empty ns buffer) events).run stage).store.tree.ParentsLinked := by
  have rooted := named.invariant (I := fun r => r.store.tree.WellRooted)
    (Store.wellRooted_empty ns buffer) (fun r x => receive_wellRooted) part
  exact rooted.linked

/-- The text of a frame of a kind with a payload. -/
def frameText (kind payload : String) : String :=
  "\x7b\"type\":\"" ++ kind ++ "\",\"message\":" ++ payload ++ "\x7d"

/-- The text of a record with some more fields. -/
def recordText (uid more : String) : String :=
  "\x7b\"uid\":\"" ++ uid ++ "\",\"createdAt\":\"2025-01-01T00:00:00Z\"" ++ more ++ "\x7d"

/-- A snapshot, a selection, and an added record that gives its child to the root. -/
def misnamed : List Signal :=
  [.frame (frameText "tree" (recordText "r" "")),
    .operation (.select "r") rfl,
    .frame (frameText "resource_add" (recordText "a"
      (",\"parentIDs\":[\"r\"],\"children\":[" ++ recordText "b" ",\"parentId\":\"r\"" ++ "]")))]

/-- A child whose record names another parent is linked to the one it was added below. -/
theorem parentsLinked_run_misnamed :
    Along receive SnapshotNamed (start (.empty "flux-system" 10) (.empty 10)) misnamed ∧
      ((start (.empty "flux-system" 10) (.empty 10)).run misnamed).store.tree.resources.map
          (fun n => (n.uid, n.parentId)) =
        [("r", none), ("a", some "r"), ("b", some "a")] ∧
      ((start (.empty "flux-system" 10) (.empty 10)).run misnamed).store.tree.ParentsLinked := by
  -- evaluated together, since the kernel then reads each frame once
  have evaluated :
      Along receive SnapshotNamed (start (.empty "flux-system" 10) (.empty 10)) misnamed ∧
        ((start (.empty "flux-system" 10) (.empty 10)).run misnamed).store.tree.resources.map
            (fun n => (n.uid, n.parentId)) =
          [("r", none), ("a", some "r"), ("b", some "a")] := by
    decide +kernel
  have linked := parentsLinked_run "flux-system" 10 (.empty 10) misnamed evaluated.1
    (List.prefix_refl misnamed)
  exact ⟨evaluated.1, evaluated.2, linked⟩

end Router

end ResourceTree
