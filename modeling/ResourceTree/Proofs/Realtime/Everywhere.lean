import ResourceTree.Proofs.Realtime.Linkage
import ResourceTree.Proofs.Tree.Everywhere

/-!
# What holds of every resource along a run of a router

All resources of a tree come out of a decoder, but for the placeholder. So a stable property of what is
decoded holds of all resources at every stage of a run, whatever the router takes in.
-/

namespace ResourceTree
set_option autoImplicit false

variable {buffer : Nat} {P : Resource → Prop}

namespace Decode

/-- A property holds of every resource whose record is well-formed. -/
def Yields (P : Resource → Prop) : Prop :=
  ∀ (w : Wire.Record) (parentId : Option String) (h : Head) (conditions : List Condition)
    (events : List Event), head w = .ok h → P (resource w parentId h conditions events)

mutual

/-- What every decoded record has, each node of a decoded tree has. -/
theorem under_everywhere (yields : Yields P) {parentId : Option String} {w : Wire.Node} {t : Tree}
    (h : under parentId w = .ok t) : t.Everywhere P := by
  cases w with
  | node w cs =>
    obtain ⟨first, readHead, h⟩ := bind_eq_ok.1 h
    obtain ⟨children, readChildren, h⟩ := bind_eq_ok.1 h
    obtain ⟨conditions, -, h⟩ := bind_eq_ok.1 h
    obtain ⟨events, -, h⟩ := bind_eq_ok.1 h
    cases pure_eq_ok.1 h
    exact Tree.everywhere_node.2
      ⟨yields w parentId first conditions events readHead, underAll_everywhere yields readChildren⟩

theorem underAll_everywhere (yields : Yields P) {parentId : Option String} {ws : List Wire.Node}
    {ts : List Tree} (h : underAll parentId ws = .ok ts) : ∀ t ∈ ts, t.Everywhere P := by
  cases ws with
  | nil =>
    cases h
    exact List.forall_mem_nil _
  | cons w ws =>
    obtain ⟨t, here, h⟩ := bind_eq_ok.1 h
    obtain ⟨rest, there, h⟩ := bind_eq_ok.1 h
    cases pure_eq_ok.1 h
    exact List.forall_mem_cons.2 ⟨under_everywhere yields here, underAll_everywhere yields there⟩

end

/-- So has each node of the tree in a message. -/
theorem node_everywhere (yields : Yields P) {w : Wire.Node} {t : Tree} (h : node w = .ok t) :
    t.Everywhere P :=
  under_everywhere yields h

end Decode

namespace Router

variable {r r' : Router}

/-- A delta that was decoded brings nothing without the property. -/
theorem brings_of_decoded (yields : Decode.Yields P) {message : Json.Value} {op : DeltaOp} {d : Delta}
    (h : d.Decoded message op) : d.Brings P := by
  cases h with
  | add decoded =>
    obtain ⟨w, read⟩ := exists_node_of_deltaTree decoded
    exact Decode.node_everywhere yields read
  | update decoded =>
    obtain ⟨w, read⟩ := exists_node_of_deltaTree decoded
    exact Decode.node_everywhere yields read
  | remove read => trivial

/-- What a frame does keeps the property. -/
theorem Routed.holds (stable : Resource.Stable buffer P) (yields : Decode.Yields P) {o : Outcome}
    (h : Routed r r' o) (holds : r.store.Holds buffer P) : r'.store.Holds buffer P := by
  cases h with
  | treeReplaced decoded =>
    obtain ⟨w, read⟩ := exists_node_of_snapshotOf decoded
    exact holds.replaceTree (Decode.node_everywhere yields read)
  | delta decoded => exact holds.apply stable (brings_of_decoded yields decoded)
  | @logAppended uid line store _ appended =>
    have kept := holds.perform stable (o := .appendLog uid line) rfl
    rwa [Store.perform_of_appended appended] at kept
  | event | connected | heartbeat | ignored | dropped => exact holds

/-- One signal keeps the property. -/
theorem receive_holds (stable : Resource.Stable buffer P) (yields : Decode.Yields P)
    (holds : r.store.Holds buffer P) (x : Signal) : (r.receive x).store.Holds buffer P := by
  cases x with
  | frame raw => exact (handleText_routed r raw).holds stable yields holds
  | connection state =>
    rw [receive, onConnection_store]
    exact holds
  | operation o here => exact holds.perform stable here

/-- Any signals keep the property, in whatever order they come. -/
theorem run_holds (stable : Resource.Stable buffer P) (yields : Decode.Yields P)
    (holds : r.store.Holds buffer P) (signals : List Signal) :
    (r.run signals).store.Holds buffer P := by
  induction signals generalizing r with
  | nil => exact holds
  | cons x rest ih => exact ih (receive_holds stable yields holds x)

/-- A stable property of the placeholder and of what is decoded holds of all resources after any run. -/
theorem run_empty_holds (stable : Resource.Stable buffer P) (yields : Decode.Yields P)
    (placeholder : P .placeholder) (ns : String) (events : EventLog) (signals : List Signal) :
    ((start (.empty ns buffer) events).run signals).store.Holds buffer P := by
  have empty : (start (.empty ns buffer) events).store.Holds buffer P :=
    ⟨rfl, Tree.everywhere_node.2 ⟨placeholder, List.forall_mem_nil _⟩⟩
  exact run_holds stable yields empty signals

end Router

end ResourceTree
