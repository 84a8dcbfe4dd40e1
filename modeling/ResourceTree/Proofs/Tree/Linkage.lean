import ResourceTree.Proofs.Tree.Outline
import ResourceTree.Proofs.Tree.Steps

/-!
# Parent links

A node names its parent by uid, beside standing among its children. `ParentsLinked` says that the
two agree throughout a tree. Deltas keep it if the trees that they bring are linked within
themselves and they name a parent that has a uid. A root without uid may take one over, and the
links to it would then be wrong: `WellRooted` adds that nothing stands below such a root.
-/

namespace ResourceTree
set_option autoImplicit false

namespace Tree

/-- Below every node, the children name it as their parent. -/
def ParentsLinked (t : Tree) : Prop :=
  ∀ u ∈ t.subtrees, ∀ c ∈ u.children, c.resource.parentId = some u.uid

/-- Trees that stand below a node of a uid. -/
def LinkedBelow (uid : String) (ts : List Tree) : Prop :=
  ∀ t ∈ ts, t.resource.parentId = some uid ∧ t.ParentsLinked

/-- A subtree of a list is one of a tree in it. -/
theorem mem_subtreesList {u : Tree} {ts : List Tree} :
    u ∈ subtreesList ts ↔ ∃ t ∈ ts, u ∈ t.subtrees := by
  induction ts with
  | nil => simp [subtreesList]
  | cons t ts ih => simp [subtreesList, ih]

/-- A tree is linked if all below its root are. -/
theorem parentsLinked_node {r : Resource} {cs : List Tree} :
    (node r cs).ParentsLinked ↔ LinkedBelow r.uid cs := by
  unfold ParentsLinked LinkedBelow
  simp only [subtrees, List.mem_cons, forall_eq_or_imp, mem_subtreesList]
  constructor
  · rintro ⟨here, below⟩ c child
    exact ⟨here c child, fun u inside => below u ⟨c, child, inside⟩⟩
  · intro linked
    refine ⟨fun c child => (linked c child).1, ?_⟩
    rintro u ⟨c, child, inside⟩
    exact (linked c child).2 u inside

/-- The first child names its parent, and so do all below it and the other children. -/
theorem linkedBelow_cons {uid : String} {t : Tree} {ts : List Tree} :
    LinkedBelow uid (t :: ts) ↔
      (t.resource.parentId = some uid ∧ t.ParentsLinked) ∧ LinkedBelow uid ts :=
  List.forall_mem_cons

mutual

/-- The links of a tree are those of its outline. -/
theorem parentsLinked_outline (t : Tree) : t.outline.ParentsLinked ↔ t.ParentsLinked := by
  cases t with
  | node r cs =>
    rw [outline, map, parentsLinked_node, parentsLinked_node]
    exact linkedBelow_outline r.uid cs

theorem linkedBelow_outline (uid : String) (ts : List Tree) :
    LinkedBelow uid (mapList Resource.place ts) ↔ LinkedBelow uid ts := by
  cases ts with
  | nil => exact Iff.rfl
  | cons t ts =>
    have place : t.outline.resource.parentId = t.resource.parentId := by cases t; rfl
    rw [mapList, linkedBelow_cons, linkedBelow_cons, ← outline, place, parentsLinked_outline t,
      linkedBelow_outline uid ts]

end

/-- A change of children leaves the fields of the root. -/
theorem resource_modify_onChildren (uid : String) (g : List Tree → List Tree) (t : Tree) :
    (t.modify uid (Store.onChildren g)).resource = t.resource := by
  cases t with
  | node r cs =>
    simp only [modify]
    split <;> rfl

theorem uid_modify_onChildren (uid : String) (g : List Tree → List Tree) (t : Tree) :
    (t.modify uid (Store.onChildren g)).uid = t.uid :=
  congrArg Resource.uid (resource_modify_onChildren uid g t)

mutual

/-- Links stay right if those below the node whose children change do. -/
theorem ParentsLinked.modify {uid : String} {g : List Tree → List Tree} {t : Tree}
    (linked : t.ParentsLinked)
    (kept : ∀ p, t.find? uid = some p → LinkedBelow p.uid p.children →
      LinkedBelow p.uid (g p.children)) :
    (t.modify uid (Store.onChildren g)).ParentsLinked := by
  cases t with
  | node r cs =>
    rw [parentsLinked_node] at linked
    simp only [find?] at kept
    simp only [Tree.modify]
    split
    · next here =>
      rw [if_pos here] at kept
      exact parentsLinked_node.2 (kept _ rfl linked)
    · next other =>
      rw [if_neg other] at kept
      exact parentsLinked_node.2 (linked.modifyList kept)

theorem LinkedBelow.modifyList {uid above : String} {g : List Tree → List Tree} {ts : List Tree}
    (linked : LinkedBelow above ts)
    (kept : ∀ p, findList? uid ts = some p → LinkedBelow p.uid p.children →
      LinkedBelow p.uid (g p.children)) :
    LinkedBelow above (modifyList uid (Store.onChildren g) ts) := by
  cases ts with
  | nil => exact linked
  | cons t ts =>
    obtain ⟨⟨parent, inner⟩, rest⟩ := linkedBelow_cons.1 linked
    cases here : t.find? uid with
    | some u =>
      rw [modifyList_cons_of_some here]
      refine linkedBelow_cons.2 ⟨⟨?_, inner.modify fun p found => kept p ?_⟩, rest⟩
      · rw [resource_modify_onChildren]
        exact parent
      · exact findList?_cons_of_some found
    | none =>
      rw [modifyList_cons_of_none here]
      refine linkedBelow_cons.2 ⟨⟨parent, inner⟩, rest.modifyList fun p found => kept p ?_⟩
      rw [findList?_cons_of_none here, found]

end

/-- All parent links are right, and a root without uid stands alone. -/
structure WellRooted (t : Tree) : Prop where
  linked : t.ParentsLinked
  lone : t.uid = "" → t.children = []

theorem wellRooted_outline (t : Tree) : t.outline.WellRooted ↔ t.WellRooted := by
  have lone : (t.outline.uid = "" → t.outline.children = []) ↔ (t.uid = "" → t.children = []) := by
    cases t with
    | node r cs =>
      cases cs with
      | nil => exact Iff.rfl
      | cons c cs =>
        refine imp_congr_right fun _ => iff_of_false ?_ ?_
        · exact List.cons_ne_nil _ _
        · exact List.cons_ne_nil _ _
  constructor
  · intro rooted
    exact ⟨(parentsLinked_outline t).1 rooted.linked, lone.1 rooted.lone⟩
  · intro rooted
    exact ⟨(parentsLinked_outline t).2 rooted.linked, lone.2 rooted.lone⟩

/-- A look-up by a uid does not find a lone root without uid. -/
theorem WellRooted.root_named {t p : Tree} (rooted : t.WellRooted) (found : t.find? p.uid = some p)
    (named : p.uid ≠ "") : t.uid ≠ "" := by
  intro nameless
  have alone := rooted.lone nameless
  cases t with
  | node r cs =>
    have same : r.uid = "" := nameless
    have none : cs = [] := alone
    subst none
    rw [find?, if_neg (by rw [same]; exact named.symm)] at found
    cases found

end Tree

namespace Store

open ResourceTree.Tree (LinkedBelow)

/-! ## Deltas -/

/-- A merged child still names its parent. -/
theorem mergeChild_linked {uid : String} {incoming : Resource} {ts : List Tree}
    (parent : incoming.parentId = some uid) (linked : LinkedBelow uid ts) :
    LinkedBelow uid (mergeChild incoming ts) := by
  induction ts with
  | nil => exact linked
  | cons t ts ih =>
    cases t with
    | node r cs =>
      obtain ⟨⟨above, inner⟩, rest⟩ := Tree.linkedBelow_cons.1 linked
      rw [mergeChild]
      split
      · refine Tree.linkedBelow_cons.2 ⟨⟨?_, ?_⟩, rest⟩
        · simp [Tree.resource, Resource.merge, parent]
        · rw [Tree.parentsLinked_node] at inner ⊢
          exact inner
      · exact Tree.linkedBelow_cons.2 ⟨⟨above, inner⟩, ih rest⟩

/-- Changed children keep the tree linked if they name their parent. -/
theorem changeChildren_wellRooted {s : Store} {parentId : Option String} {p : Tree}
    (parent : s.parentOf parentId = .ok p) (named : parentId ≠ some "") (rooted : s.tree.WellRooted)
    {g : List Tree → List Tree}
    (kept : LinkedBelow p.uid p.children → LinkedBelow p.uid (g p.children)) :
    (s.changeChildren p g).tree.WellRooted := by
  obtain ⟨rfl, found, -⟩ := parentOf_eq_ok parent
  constructor
  · refine rooted.linked.modify fun q there => ?_
    rw [found] at there
    cases there
    exact kept
  · intro nameless
    have root : (s.changeChildren p g).tree.uid = s.tree.uid :=
      Tree.uid_modify_onChildren p.uid g s.tree
    exact absurd (root ▸ nameless) (rooted.root_named found fun blank => named (blank ▸ rfl))

/-- A root that takes a uid for the first time has no children, so no child loses its parent. -/
theorem mergeRoot_wellRooted {t : Tree} (rooted : t.WellRooted) (incoming : Resource) :
    (mergeRoot incoming t).WellRooted := by
  cases t with
  | node r cs =>
    by_cases nameless : r.uid = ""
    · have alone : cs = [] := rooted.lone nameless
      subst alone
      exact ⟨Tree.parentsLinked_node.2 (List.forall_mem_nil _), fun _ => rfl⟩
    · have linked := rooted.linked
      simp only [mergeRoot, if_neg nameless]
      rw [Tree.parentsLinked_node] at linked
      exact ⟨Tree.parentsLinked_node.2 linked, fun blank => absurd blank nameless⟩

/-- A delta that does not name a parent without uid, and whose tree is linked within itself. -/
structure Fits (d : Delta) : Prop where
  named : d.parentId ≠ some ""
  linked : ∀ t, d = .add t → t.ParentsLinked

/-- A delta whose parts name their parents keeps the tree linked, applied or not. -/
theorem apply_wellRooted {s : Store} {d : Delta} (rooted : s.tree.WellRooted) (fits : Fits d) :
    (s.apply d).1.tree.WellRooted := by
  cases d with
  | add t =>
    have named : t.resource.parentId ≠ some "" := fits.named
    rw [apply]
    rcases s.add_cases t with ⟨-, m, -, eq⟩ | ⟨-, p, parent, -, eq⟩ | ⟨-, p, parent, eq⟩
    · rw [eq]
      exact rooted
    · rw [eq]
      exact changeChildren_wellRooted parent named rooted
        (mergeChild_linked (parentOf_eq_ok parent).1)
    · rw [eq]
      refine changeChildren_wellRooted parent named rooted fun linked => ?_
      refine List.forall_mem_append.2 ⟨linked, Tree.linkedBelow_cons.2 ⟨⟨?_, ?_⟩, ?_⟩⟩
      · exact (parentOf_eq_ok parent).1
      · exact fits.linked t rfl
      · exact List.forall_mem_nil _
  | update t =>
    have named : t.resource.parentId ≠ some "" := fits.named
    rw [apply]
    rcases s.update_cases t with ⟨-, m, -, eq⟩ | ⟨-, p, parent, -, eq⟩ | ⟨-, eq⟩
    · rw [eq]
      exact rooted
    · rw [eq]
      exact changeChildren_wellRooted parent named rooted
        (mergeChild_linked (parentOf_eq_ok parent).1)
    · rw [eq]
      exact mergeRoot_wellRooted rooted t.resource
  | remove uid parentId =>
    rw [apply]
    rcases s.remove_cases uid parentId with ⟨m, -, eq⟩ | ⟨p, parent, -, eq⟩
    · rw [eq]
      exact rooted
    · rw [eq, dropStaleSelection_tree]
      refine changeChildren_wellRooted parent fits.named rooted fun linked c child => ?_
      exact linked c (List.mem_of_mem_eraseP child)

/-- A snapshot that is linked and has a uid is taken as it is. -/
theorem replaceTree_wellRooted (s : Store) {t : Tree} (linked : t.ParentsLinked)
    (named : t.uid ≠ "") : (s.replaceTree t).tree.WellRooted := by
  rw [replaceTree, dropStaleSelection_tree]
  exact ⟨linked, fun nameless => absurd nameless named⟩

/-- Operations that bring no tree in touch no link. -/
theorem perform_wellRooted {s : Store} {o : Operation} (rooted : s.tree.WellRooted)
    (here : o.isLocal = true) : (s.perform o).tree.WellRooted := by
  rw [← Tree.wellRooted_outline, s.perform_outline here, Tree.wellRooted_outline]
  exact rooted

/-- Nothing stands below the application of an empty store. -/
theorem wellRooted_empty (ns : String) (buffer : Nat) : (empty ns buffer).tree.WellRooted :=
  ⟨Tree.parentsLinked_node.2 (List.forall_mem_nil _), fun _ => rfl⟩

end Store

end ResourceTree
