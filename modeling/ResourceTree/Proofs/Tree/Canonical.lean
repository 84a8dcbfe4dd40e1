import Mathlib.Data.List.Nodup
import ResourceTree.Proofs.Tree.Modify
import ResourceTree.Proofs.Tree.Equality
import ResourceTree.Proofs.Tree.Listings

/-!
# Trees up to the order of siblings

Structural equality puts all siblings in the order of their uids before it compares. Where siblings
have distinct uids there is one such order, so that it forgets the order that they came in.
-/

namespace ResourceTree
set_option autoImplicit false

/-- Elements of distinct names can be put in the order of their names in one way only. -/
theorem NameSorted.unique {α : Type} {name : α → String} {given given' sorted sorted' : List α}
    (distinct : (given.map name).Nodup) (perm : given.Perm given')
    (left : NameSorted name given sorted) (right : NameSorted name given' sorted') :
    sorted = sorted' := by
  have antisymm : ∀ a b, a ∈ sorted → b ∈ sorted' → name a ≤ name b → name b ≤ name a → a = b := by
    intro a b ha hb ab ba
    have here : a ∈ given := left.perm.subset ha
    have there : b ∈ given := perm.symm.subset (right.perm.subset hb)
    exact List.inj_on_of_nodup_map distinct here there (String.le_antisymm ab ba)
  have same : sorted.Perm sorted' := left.perm.trans (perm.trans right.perm.symm)
  exact same.eq_of_pairwise antisymm left.ordered right.ordered

namespace Tree

open Store (onChildren)

/-- Trees are structurally equal if they have one canonical form. -/
theorem structurallyEqual_iff {t u : Tree} :
    t.structurallyEqual u = true ↔ t.canonical = u.canonical := by
  rw [structurallyEqual, beq_iff_eq]

theorem uid_canonical (t : Tree) : t.canonical.uid = t.uid := by
  cases t with
  | node r cs => rfl

theorem canonicalList_eq_map (ts : List Tree) : canonicalList ts = ts.map canonical := by
  induction ts with
  | nil => rfl
  | cons t ts ih => rw [canonicalList, List.map_cons, ih]

/-- Siblings as they stand in a canonical tree. -/
def arranged (ts : List Tree) : List Tree := sortByUid (canonicalList ts)

/-- The canonical form has the children in canonical form, sorted by uid. -/
theorem canonical_node (r : Resource) (cs : List Tree) :
    (node r cs).canonical = node r (arranged cs) := by
  rw [canonical, arranged]

/-- Siblings with distinct uids are the same siblings in whatever order they stand. -/
theorem arranged_perm {ts us : List Tree} (distinct : (ts.map uid).Nodup) (perm : ts.Perm us) :
    arranged ts = arranged us := by
  have uids : (canonicalList ts).map uid = ts.map uid := by
    rw [canonicalList_eq_map, List.map_map]
    exact List.map_congr_left fun t _ => uid_canonical t
  have moved : (canonicalList ts).Perm (canonicalList us) := by
    rw [canonicalList_eq_map, canonicalList_eq_map]
    exact perm.map canonical
  apply NameSorted.unique (uids ▸ distinct) moved
  · exact nameSorted_mergeSort uid _
  · exact nameSorted_mergeSort uid _

theorem uids_children_sublist (ts : List Tree) :
    (ts.map uid).Sublist ((resourcesList ts).map (·.uid)) := by
  induction ts with
  | nil => exact List.Sublist.refl []
  | cons t ts ih =>
    rw [resourcesList_cons, resources_eq_cons, List.cons_append, List.map_cons, List.map_cons,
      List.map_append]
    exact (ih.trans (List.sublist_append_right _ _)).cons_cons t.uid

/-- In a tree with distinct uids, so are those of every node and what stands below it. -/
theorem nodup_of_found {p : String} {t u : Tree} (distinct : t.uids.Nodup)
    (found : t.find? p = some u) : u.uids.Nodup := by
  obtain ⟨before, after, eq, -⟩ := exists_context found
  rw [uids_eq_map, eq, List.map_append, List.map_append, ← uids_eq_map u] at distinct
  exact (List.nodup_append.1 (List.nodup_append.1 distinct).1).2.1

/-- In a tree with distinct uids, so have the children of every node. -/
theorem nodup_children {p : String} {t u : Tree} (distinct : t.uids.Nodup)
    (found : t.find? p = some u) : (u.children.map uid).Nodup := by
  have once := nodup_of_found distinct found
  rw [uids_eq_cons] at once
  exact (List.nodup_cons.1 once).2.sublist (uids_children_sublist u.children)

section Congruence

variable {p : String} {f g : List Tree → List Tree}

mutual

/-- Changes that leave the children of one node the same up to their order do so for the tree. -/
theorem canonical_modify_congr {t : Tree}
    (same : ∀ u, t.find? p = some u → arranged (f u.children) = arranged (g u.children)) :
    (t.modify p (onChildren f)).canonical = (t.modify p (onChildren g)).canonical := by
  cases t with
  | node r cs =>
    rw [find?] at same
    rw [modify, modify]
    by_cases here : r.uid = p
    · rw [if_pos here] at same
      rw [if_pos here, if_pos here, onChildren, onChildren, canonical_node, canonical_node]
      exact congrArg (node r) (same _ rfl)
    · rw [if_neg here] at same
      rw [if_neg here, if_neg here, canonical, canonical, canonicalList_modifyList_congr same]

/-- In siblings changes that come to the same up to order have one canonical form. -/
theorem canonicalList_modifyList_congr {ts : List Tree}
    (same : ∀ u, findList? p ts = some u → arranged (f u.children) = arranged (g u.children)) :
    canonicalList (modifyList p (onChildren f) ts) =
      canonicalList (modifyList p (onChildren g) ts) := by
  cases ts with
  | nil => rfl
  | cons t ts =>
    cases present : t.find? p with
    | some u =>
      have own : (t.modify p (onChildren f)).canonical = (t.modify p (onChildren g)).canonical :=
        canonical_modify_congr fun v found => same v (findList?_cons_of_some found)
      rw [modifyList_cons_of_some present, modifyList_cons_of_some present, canonicalList,
        canonicalList, own]
    | none =>
      rw [findList?_cons_of_none present] at same
      rw [modifyList_cons_of_none present, modifyList_cons_of_none present, canonicalList,
        canonicalList, canonicalList_modifyList_congr same]

end

end Congruence

end Tree

end ResourceTree
