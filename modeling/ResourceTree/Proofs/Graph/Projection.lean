import ResourceTree.Graph.Projection
import ResourceTree.Proofs.Tree.Walk

/-!
# What a graph depends on

The graph of a subtree is rooted at the uid where it starts, so that it is found again by its root.
Log lines are not shown in a graph.
-/

namespace ResourceTree
set_option autoImplicit false

namespace Tree

/-- The uid of a node that was found by a uid, or as the root, leads to the same node. -/
theorem resolve?_uid {uid : String} {t start : Tree} (h : t.resolve? uid = some start) :
    t.resolve? start.uid = some start := by
  unfold resolve? at h ⊢
  split at h
  · cases h
    split
    · rfl
    · cases t with
      | node r cs =>
        show (node r cs).find? r.uid = some (node r cs)
        rw [find?, if_pos rfl]
  · next named =>
    have same : start.uid = uid := find?_uid h
    rw [same, if_neg named]
    exact h

/-- Only an absent uid does not lead to a node; the empty one never is. -/
theorem resolve?_eq_none_iff {uid : String} {t : Tree} :
    t.resolve? uid = none ↔ uid ≠ "" ∧ uid ∉ t.uids := by
  unfold resolve?
  split
  · next blank => simp [blank]
  · next named =>
    rw [find?_eq_none_iff]
    exact (and_iff_right named).symm

end Tree

namespace Projection

variable (excluded : List String)

theorem visit_root (p : Projection) (t : Tree) (depth : Nat) :
    (visit excluded p t depth).1.root = p.root := by
  unfold visit
  split
  · rfl
  · split <;> rfl

theorem ofTree_root (start : Tree) : (ofTree excluded start).root = start.uid :=
  Tree.walkStack_invariant (I := fun p => p.root = start.uid)
    (fun p t depth here => (visit_root excluded p t depth).trans here) rfl [(start, 0)]

/-- The edges to the children that are not excluded, in order. -/
theorem attachChildren_eq (edges : List Edge) (t : Tree) :
    attachChildren excluded edges t =
      (((t.children.map Tree.resource).filter fun r => !excluded.contains r.kind).map
        fun r => { source := t.uid, target := r.uid : Edge }).foldl attach edges := by
  rw [attachChildren, List.filter_map, List.map_map]
  rfl

/-- A visit does not look at log lines. -/
theorem visit_eraseLogs (p : Projection) (t : Tree) (depth : Nat) :
    visit excluded p (t.map Resource.eraseLogs) depth = visit excluded p t depth := by
  have resource : (t.map Resource.eraseLogs).resource = t.resource.eraseLogs := by cases t; rfl
  have edges : attachChildren excluded p.edges (t.map Resource.eraseLogs) =
      attachChildren excluded p.edges t := by
    rw [attachChildren_eq, attachChildren_eq, Tree.children_map, List.filter_map, List.map_map,
      Tree.uid, resource]
    rfl
  simp only [visit, edges, resource, Tree.uid]
  rfl

/-- The graph does not show log lines. -/
theorem ofTree_eraseLogs (start : Tree) :
    ofTree excluded start.eraseLogs = ofTree excluded start := by
  have root : start.eraseLogs.uid = start.uid := by cases start; rfl
  rw [ofTree, ofTree, root]
  exact Tree.walk_map (visit_eraseLogs excluded) _ start

/-- The graphs of a tree depend on the tree without its log lines. -/
theorem ofUid?_congr {t u : Tree} (same : t.eraseLogs = u.eraseLogs) (uid : String) :
    ofUid? excluded uid t = ofUid? excluded uid u := by
  have erased : ∀ t : Tree, ofUid? excluded uid t.eraseLogs = ofUid? excluded uid t := by
    intro t
    rw [ofUid?, Tree.eraseLogs, Tree.resolve?_map (f := Resource.eraseLogs) (fun _ => rfl),
      Option.map_map, ofUid?]
    congr 1
    funext start
    exact ofTree_eraseLogs excluded start
  rw [← erased t, same, erased u]

end Projection

end ResourceTree
