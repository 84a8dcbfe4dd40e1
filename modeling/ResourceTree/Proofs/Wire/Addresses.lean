import ResourceTree.Proofs.Realtime.Resync
import ResourceTree.Proofs.Tree.Reordering
import ResourceTree.Proofs.Wire.Fair
import ResourceTree.Proofs.Wire.RoundTrip

/-!
# One address for all operations

A removal reads no more of a node record than its address. From every object that is a node record it
takes the address of that record, so that all three operations name the same child of the same parent.
-/

namespace ResourceTree
set_option autoImplicit false

open Json (Document Ending Fault Fields Value)

namespace Wire

/-- The address in a node record. -/
def Record.toRef (r : Record) : NodeRef :=
  { uid := r.uid, parentId := r.parentId, parentIds := r.parentIds }

variable {s : Fields} {deep : Bool} {members : List (Except Fault String × Document)} {e : Ending}
  {n : Node}

/-- The fields of a record hold its address. -/
theorem Record.ofFields_address {r : Record} (read : Record.ofFields s = .ok r) :
    s.required "uid" Json.Reader.text = .ok r.uid ∧
      s.optional "parentId" Json.Reader.text = .ok r.parentId ∧
      s.list "parentIDs" Json.Reader.text = .ok r.parentIds := by
  unfold Record.ofFields at read
  -- the fields behind the parents
  iterate 16
    rw [Json.Placed.seq_eq_ok] at read
    obtain ⟨_, _, read, -, rfl⟩ := read
  obtain ⟨_, parentIds, h, list, rfl⟩ := Json.Placed.seq_eq_ok.1 read
  obtain ⟨_, parentId, own, parent, rfl⟩ := Json.Placed.seq_eq_ok.1 h
  -- the fields between the uid and the parents
  iterate 6
    rw [Json.Placed.seq_eq_ok] at own
    obtain ⟨_, _, own, -, rfl⟩ := own
  obtain ⟨uid, found, rfl⟩ := Json.Placed.map_eq_ok.1 own
  exact ⟨found, parent, list⟩

/-- An object that is a node record is the address of the node. -/
theorem NodeRef.read_of_node (taken : Node.read (.object deep members e) = .ok n) :
    NodeRef.read (.object deep members e) = .ok n.record.toRef := by
  unfold Node.read Node.readLevels at taken
  have named : Node.shape.aliases = NodeRef.shape.aliases := rfl
  refine Json.RecordShape.reader_narrow named (by decide) (reads_node (fair_readLevels _))
    (by decide) (fun s built => ?_) taken
  obtain ⟨_, children, own, -, rfl⟩ := Json.Placed.seq_eq_ok.1 built
  obtain ⟨r, record, rfl⟩ := Json.Placed.map_eq_ok.1 own
  obtain ⟨uid, parent, list⟩ := Record.ofFields_address record
  refine Json.Placed.seq_eq_ok.2 ⟨_, _, Json.Placed.seq_eq_ok.2 ⟨_, _, ?_, parent, rfl⟩, list, rfl⟩
  exact Json.Placed.map_eq_ok.2 ⟨_, uid, rfl⟩

end Wire

namespace Decode

theorem under_uid {parentId : Option String} {w : Wire.Node} {t : Tree}
    (h : under parentId w = .ok t) : t.uid = w.record.uid := by
  cases w with
  | node w cs =>
    obtain ⟨_, -, h⟩ := bind_eq_ok.1 h
    obtain ⟨_, -, h⟩ := bind_eq_ok.1 h
    obtain ⟨_, -, h⟩ := bind_eq_ok.1 h
    obtain ⟨_, -, h⟩ := bind_eq_ok.1 h
    cases pure_eq_ok.1 h
    rfl

end Decode

namespace Router

variable {n : Wire.Node} {message : Value} {op : DeltaOp}

/-- A frame with an operation is routed as its delta. -/
theorem handle_of_deltaOp {e : Envelope} (named : e.deltaOp? = some op) (r : Router) :
    r.handle e = match r.handleDelta op e.message with
      | .ok result => result
      | .error err => (r, .dropped err.message) := by
  cases known : e.kind? with
  | none => simp only [Envelope.deltaOp?, known, reduceCtorEq] at named
  | some kind =>
    have routed : r.dispatch kind e = r.handleDelta op e.message := by
      cases kind with
      | resource | resourceAdd | resourceUpdate | resourceRemove =>
        simp only [dispatch, named]
      | tree | event | log | ping | pong | connected | startWatchLogs =>
        simp only [Envelope.deltaOp?, known, MessageKind.deltaOp?, reduceCtorEq] at named
    cases handled : r.handleDelta op e.message with
    | ok result => simp only [handle_of_kind known, routed, handled]
    | error err => simp only [handle_of_kind known, routed, handled]

/-- A node record with an operation is a delta with the address in the record, unless it is to be
added or updated and cannot be decoded. -/
theorem deltaOf_address (taken : Snapshot.readValue Wire.Node.read message = .ok n)
    (address : Snapshot.readValue Wire.NodeRef.read message = .ok n.record.toRef) (op : DeltaOp) :
    (op ≠ .remove ∧ ∃ err, Decode.node n = .error err ∧ deltaOf op message = .error (.record err)) ∨
      ∃ d : Delta, d.Decoded message op ∧ d.uid = n.record.uid ∧ d.parentId = n.parent ∧
        deltaOf op message = .ok d := by
  have tree : deltaTree message = (Decode.node n).mapError .record := by
    rw [deltaTree, taken]
    rfl
  cases op with
  | remove =>
    refine .inr ⟨.remove n.record.uid n.parent, .remove address, rfl, rfl, ?_⟩
    rw [deltaOf, address]
    rfl
  | add =>
    rw [deltaOf, tree]
    cases decoded : Decode.node n with
    | error err => exact .inl ⟨nofun, err, rfl, rfl⟩
    | ok t =>
      rw [decoded] at tree
      exact .inr ⟨.add t, .add tree, Decode.under_uid decoded, Decode.under_parent decoded, rfl⟩
  | update =>
    rw [deltaOf, tree]
    cases decoded : Decode.node n with
    | error err => exact .inl ⟨nofun, err, rfl, rfl⟩
    | ok t =>
      rw [decoded] at tree
      exact .inr ⟨.update t, .update tree, Decode.under_uid decoded, Decode.under_parent decoded, rfl⟩

/-- Every object that is a node record is an address, with the uid and the parent of the record. So a
frame that carries it is about that child of that parent, whatever its operation; only an addition or
an update is refused, for a record that cannot be decoded. -/
theorem handle_address :
    (∀ {deep : Bool} {members : List (Except Fault String × Document)} {ending : Ending}
        {n : Wire.Node}, Wire.Node.read (.object deep members ending) = .ok n →
      ∃ w, Wire.NodeRef.read (.object deep members ending) = .ok w ∧
        w.uid = n.record.uid ∧ w.parent = n.parent) ∧
    ∀ (r : Router) (e : Envelope) {op : DeltaOp} {members : List (String × Value)} {n : Wire.Node},
      e.deltaOp? = some op → e.message = .object members →
      Snapshot.readValue Wire.Node.read e.message = .ok n →
      (op ≠ .remove ∧ ∃ err, Decode.node n = .error err ∧ r.handle e = (r, .dropped err.message)) ∨
      ∃ d : Delta, d.Decoded e.message op ∧ d.uid = n.record.uid ∧ d.parentId = n.parent ∧
        r.handle e = ({ r with store := (r.store.apply d).1 }, .delta op (r.store.apply d).2) := by
  refine ⟨fun taken => ⟨_, Wire.NodeRef.read_of_node taken, rfl, rfl⟩, ?_⟩
  intro r e op members n named object taken
  have address : Snapshot.readValue Wire.NodeRef.read e.message = .ok n.record.toRef := by
    rw [object] at taken ⊢
    exact mapError_eq_ok.2 (Wire.NodeRef.read_of_node (mapError_eq_ok.1 taken))
  rw [handle_of_deltaOp named, handleDelta_eq]
  rcases deltaOf_address taken address op with
    ⟨notRemove, err, refused, eq⟩ | ⟨d, decoded, uid, parent, eq⟩
  · refine .inl ⟨notRemove, err, refused, ?_⟩
    rw [eq]
    rfl
  · refine .inr ⟨d, decoded, uid, parent, ?_⟩
    rw [eq]
    rfl

/-- A whole node record that names its parent in the list only, with a field of no meaning. -/
def listedPod : List (String × Value) :=
  [("cluster", .text "west"), ("createdAt", .text "2025-01-01T00:00:00Z"),
    ("parentIDs", .array [.text "r", .text "other"]), ("parentId", .null), ("uid", .text "pod")]

theorem handle_address_listedPod :
    (∃ w, Wire.NodeRef.read (.ofValue (.object listedPod)) = .ok w ∧
      w.uid = "pod" ∧ w.parent = some "r") ∧
    (∃ d : Delta, d.Decoded (.object listedPod) .add ∧ d.uid = "pod" ∧ d.parentId = some "r") ∧
    ∃ d : Delta, d.Decoded (.object listedPod) .remove ∧ d.uid = "pod" ∧ d.parentId = some "r" := by
  obtain ⟨n, taken, uid, parent, t, decoded⟩ : ∃ n,
      Wire.Node.read (.ofValue (.object listedPod)) = .ok n ∧ n.record.uid = "pod" ∧
        n.parent = some "r" ∧ ∃ t, Decode.node n = .ok t :=
    ⟨_, rfl, rfl, rfl, _, rfl⟩
  obtain ⟨addresses, routes⟩ := handle_address
  have r := start (.empty "flux-system" 10) (.empty 10)
  have routed (op : DeltaOp) (named : (Envelope.ofDelta op (.object listedPod)).deltaOp? = some op) :
      ∃ d : Delta, d.Decoded (.object listedPod) op ∧ d.uid = "pod" ∧ d.parentId = some "r" := by
    rcases routes r (.ofDelta op (.object listedPod)) named rfl (mapError_eq_ok.2 taken) with
      ⟨-, err, refused, -⟩ | ⟨d, delta, uid', parent', -⟩
    · rw [decoded] at refused
      cases refused
    · exact ⟨d, delta, uid'.trans uid, parent'.trans parent⟩
  obtain ⟨w, read, uid', parent'⟩ := addresses taken
  exact ⟨⟨w, read, uid'.trans uid, parent'.trans parent⟩, routed .add (by decide +kernel),
    routed .remove (by decide +kernel)⟩

end Router

end ResourceTree
