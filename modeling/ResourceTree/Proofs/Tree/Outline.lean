import ResourceTree.Proofs.Tree.Logs
import ResourceTree.Tree.Run

/-!
# What operations on single fields leave alone

Flags and log lines are changed on a node without a word about where it stands. `outline` keeps the
uid and the parent link of every node and drops the rest; the operations that are neither a snapshot
nor a delta do not change it.
-/

namespace ResourceTree
set_option autoImplicit false

/-- The resource with nothing but its place. -/
def Resource.place (r : Resource) : Resource :=
  { Resource.placeholder with uid := r.uid, parentId := r.parentId }

namespace Tree

/-- The uids and the parent links of a tree. -/
def outline (t : Tree) : Tree := t.map Resource.place

/-- The outline has the uids of the tree. -/
theorem uids_outline (t : Tree) : t.outline.uids = t.uids :=
  uids_map (f := Resource.place) (fun _ => rfl) t

/-- Log lines are no part of the outline. -/
theorem outline_eraseLogs (t : Tree) : t.eraseLogs.outline = t.outline :=
  map_map Resource.eraseLogs Resource.place t

/-- Flags are no part of the outline. -/
theorem outline_modify_putFlux (uid : String) (flux : Flux) (t : Tree) :
    (t.modify uid (Store.putFlux flux)).outline = t.outline := by
  refine map_modify (fun t => ?_) uid t
  cases t with
  | node r cs => rfl

end Tree

namespace Store

/-- An action leaves the outline. -/
theorem setFlags_outline (s : Store) (uid : String) (reconciling suspended : Option Bool) :
    (s.setFlags uid reconciling suspended).1.tree.outline = s.tree.outline := by
  unfold setFlags
  split
  · rfl
  · split
    · rfl
    · exact Tree.outline_modify_putFlux uid _ s.tree

/-- So does every operation that brings no tree in. -/
theorem perform_outline (s : Store) {o : Operation} (here : o.isLocal = true) :
    (s.perform o).tree.outline = s.tree.outline := by
  cases o with
  | replaceTree t => cases here
  | delta d => cases here
  | setFlags uid reconciling suspended => exact s.setFlags_outline uid _ _
  | appendLog uid line =>
    rw [perform]
    cases appended : s.appendLog? uid line with
    | none => rfl
    | some s' =>
      obtain ⟨tree, same, rfl⟩ := appendLog?_eq_some appended
      show tree.outline = s.tree.outline
      rw [← Tree.outline_eraseLogs, same, Tree.outline_eraseLogs]
  | select uid =>
    rw [perform, select?]
    cases s.tree.resolve? uid with
    | none => rfl
    | some t => rfl
  | clearSelection => rfl
  | derivedViews =>
    rw [perform, derivedViews]
    split
    · rfl
    · rfl

/-- An operation that leaves the nodes where they are loses no uid and brings none in. -/
theorem perform_uids (s : Store) {o : Operation} (here : o.isLocal = true) :
    (s.perform o).tree.uids = s.tree.uids := by
  rw [← Tree.uids_outline, s.perform_outline here, Tree.uids_outline]

end Store

end ResourceTree
