import ResourceTree.Proofs.Tree.Edits
import ResourceTree.Proofs.Tree.Uniqueness

/-!
# Deltas in another order

Messages may be swapped on their way. Two deltas that touch different nodes, and of which neither
names as parent what the other touches, do the same in either order. A delta of a node below the
root is first decided on, in a `Plan`, and then carried out. The one after which another comes
leaves the parent of the other, its siblings as far as they matter and the uids that it asks for as
they are, so that the plan of the other stays; and the two edits can be swapped.
-/

namespace ResourceTree
set_option autoImplicit false

open Store (onChildren)

/-! ## Plans -/

/-- What a delta comes to in a tree. -/
inductive Plan where
  | refuse (m : Mutation)
  /-- An edit of the children of a node. -/
  | edit (parent : String) (e : Edit)

namespace Plan

def outcome : Plan → Mutation
  | refuse m => m
  | edit _ _ => .applied

def run : Plan → Tree → Tree
  | refuse _, t => t
  | edit parent e, t => t.modify parent (onChildren e.run)

theorem uid_run (plan : Plan) (t : Tree) : (plan.run t).uid = t.uid := by
  cases plan with
  | refuse m => rfl
  | edit parent e => exact Tree.uid_modify_onChildren parent e.run t

end Plan

namespace Delta

/-- The uid of the node that a delta is about. -/
def uid : Delta → String
  | add t | update t => t.uid
  | remove uid _ => uid

/-- What a delta comes to once its parent is found. -/
def planAt (t parent : Tree) : Delta → Plan
  | add new =>
    if parent.children.any (·.uid = new.uid) then .edit parent.uid (.merge new.resource)
    else if new.uids.any fun uid => t.contains uid then .refuse .duplicateUid
    else .edit parent.uid (.attach new)
  | update new =>
    if parent.children.any (·.uid = new.uid) then .edit parent.uid (.merge new.resource)
    else .refuse .missingNode
  | remove uid _ =>
    if parent.children.any (·.uid = uid) then .edit parent.uid (.detach uid)
    else .refuse .missingNode

/-- What a delta comes to in the tree of a store, unless it updates the root. -/
def plan (s : Store) (d : Delta) : Plan :=
  match s.parentOf d.parentId with
  | .error m => .refuse m
  | .ok parent => d.planAt s.tree parent

def updatesRoot (s : Store) : Delta → Bool
  | update t => s.targetsRoot t.resource
  | add _ | remove _ _ => false

/-- The uids that a delta touches: those of the tree that is added, that of the node that is
updated, or those of all that is removed. -/
def touched (t : Tree) : Delta → List String
  | add new => new.uids
  | update new => [new.uid]
  | remove uid _ => uid :: ((t.find? uid).map Tree.uids).getD []

theorem uid_mem_touched (t : Tree) (d : Delta) : d.uid ∈ d.touched t := by
  cases d with
  | add new => exact Tree.uid_mem_uids new
  | update new => exact List.mem_singleton_self new.uid
  | remove uid parentId => exact List.mem_cons_self

end Delta

namespace Store

/-- A delta that does not update the root does as planned. -/
theorem apply_spec {s : Store} {d : Delta} (below : d.updatesRoot s = false) :
    (s.apply d).2 = (d.plan s).outcome ∧ (s.apply d).1.tree = (d.plan s).run s.tree ∧
      (s.apply d).1.fluxNamespace = s.fluxNamespace := by
  cases d with
  | add t =>
    rw [apply, add, Delta.plan, Delta.parentId]
    cases s.parentOf t.resource.parentId with
    | error m => exact ⟨rfl, rfl, rfl⟩
    | ok parent =>
      simp only [Delta.planAt]
      split
      · exact ⟨rfl, rfl, rfl⟩
      · split
        · exact ⟨rfl, rfl, rfl⟩
        · exact ⟨rfl, rfl, rfl⟩
  | update t =>
    have notRoot : s.targetsRoot t.resource = false := below
    rw [apply, update, notRoot, if_neg Bool.false_ne_true, Delta.plan, Delta.parentId]
    cases s.parentOf t.resource.parentId with
    | error m => exact ⟨rfl, rfl, rfl⟩
    | ok parent =>
      simp only [Delta.planAt]
      split
      · exact ⟨rfl, rfl, rfl⟩
      · exact ⟨rfl, rfl, rfl⟩
  | remove uid parentId =>
    rw [apply, remove, Delta.plan, Delta.parentId]
    cases s.parentOf parentId with
    | error m => exact ⟨rfl, rfl, rfl⟩
    | ok parent =>
      simp only [Delta.planAt]
      split
      · obtain ⟨selected, dropped⟩ := dropStaleSelection_eq
          (s.changeChildren parent (·.eraseP (·.uid = uid)))
        rw [dropped]
        exact ⟨rfl, rfl, rfl⟩
      · exact ⟨rfl, rfl, rfl⟩

/-- The version counts the deltas that were applied. -/
theorem apply_version (s : Store) (d : Delta) :
    (s.apply d).1.version = s.version + if (s.apply d).2 = .applied then 1 else 0 := by
  rcases s.apply_cases d with ⟨applied, tree, selected, eq⟩ | ⟨refused, eq⟩
  · rw [eq, if_pos applied]
  · rw [eq, if_neg refused, Nat.add_zero]

theorem updatesRoot_apply {s : Store} {d : Delta} (below : d.updatesRoot s = false) (e : Delta) :
    e.updatesRoot (s.apply d).1 = e.updatesRoot s := by
  obtain ⟨-, tree, ns⟩ := apply_spec below
  have root : (s.apply d).1.tree.uid = s.tree.uid := by
    rw [tree]
    exact (d.plan s).uid_run s.tree
  cases e with
  | add t => rfl
  | update t => rw [Delta.updatesRoot, Delta.updatesRoot, targetsRoot, targetsRoot, root, ns]
  | remove uid parentId => rfl

end Store

/-! ## What an edit leaves as it is -/

namespace Delta

/-- An edit that is planned is one of the children of the node that the delta names. It is about the
uid of the delta, attaches no second child of that uid, and avoids what the delta does not touch. -/
theorem plan_eq_edit {s : Store} {d : Delta} {p : String} {e : Edit}
    (distinct : s.tree.uids.Nodup) (planned : d.plan s = .edit p e) :
    d.parentId = some p ∧ ∃ parent, s.tree.find? p = some parent ∧ e.uid = d.uid ∧
      e.Fresh parent.children ∧ ∀ q, q ∉ d.touched s.tree → e.Avoids q parent.children := by
  rw [plan] at planned
  cases named : s.parentOf d.parentId with
  | error m =>
    rw [named] at planned
    cases planned
  | ok parent =>
    obtain ⟨names, found, -⟩ := Store.parentOf_eq_ok named
    rw [named] at planned
    cases d with
    | add new =>
      simp only [planAt] at planned
      split at planned
      · cases planned
        refine ⟨names, parent, found, rfl, trivial, ?_⟩
        intro q apart same
        exact apart (same ▸ Tree.uid_mem_uids new)
      · next noSibling =>
        split at planned
        · cases planned
        · cases planned
          refine ⟨names, parent, found, rfl, ?_, fun q apart => apart⟩
          intro member
          obtain ⟨c, child, same⟩ := List.mem_map.1 member
          exact noSibling (List.any_eq_true.2 ⟨c, child, decide_eq_true same⟩)
    | update new =>
      simp only [planAt] at planned
      split at planned
      · cases planned
        refine ⟨names, parent, found, rfl, trivial, ?_⟩
        intro q apart same
        exact apart (same ▸ List.mem_singleton_self new.uid)
      · cases planned
    | remove uid parentId =>
      simp only [planAt] at planned
      split at planned
      · cases planned
        refine ⟨names, parent, found, rfl, trivial, ?_⟩
        -- the child that goes is the node that is found by its uid
        rintro q apart c child rfl inside
        have stands : c ∈ s.tree.subtrees :=
          Tree.child_mem_subtrees (Tree.find?_mem_subtrees found) child
        apply apart
        rw [touched, Tree.find?_of_mem_subtrees distinct stands]
        exact List.mem_cons_of_mem _ inside
      · cases planned

/-- Two deltas of which neither touches what the other touches or names as parent. -/
structure Independent (t : Tree) (d e : Delta) : Prop where
  apart : ∀ uid ∈ d.touched t, uid ∉ e.touched t
  left : ∀ p ∈ d.parentId, p ∉ e.touched t
  right : ∀ p ∈ e.parentId, p ∉ d.touched t

theorem Independent.symm {t : Tree} {d e : Delta} (h : Independent t d e) : Independent t e d :=
  ⟨fun uid there here => h.apart uid here there, h.right, h.left⟩

section Stable

variable {s s' : Store} {d : Delta} {p : String} {x : Edit}

/-- What a delta leaves of the siblings that it edits, by uids that it does not touch. -/
theorem spares_of_plan (distinct : s.tree.uids.Nodup) (planned : d.plan s = .edit p x) {q : String}
    (apart : q ∉ d.touched s.tree) :
    ∀ u, s.tree.find? p = some u → Tree.Spares q x.run u.children := by
  obtain ⟨-, parent, found, -, -, avoids⟩ := plan_eq_edit distinct planned
  intro u same
  rw [found] at same
  cases same
  exact Edit.spares (avoids q apart)

/-- A delta finds the parent that it would have found, with its children edited. -/
theorem parentOf_run (distinct : s.tree.uids.Nodup) (planned : d.plan s = .edit p x)
    (after : s'.tree = s.tree.modify p (onChildren x.run)) {parentId : Option String}
    (apart : ∀ q ∈ parentId, q ∉ d.touched s.tree) :
    s'.parentOf parentId = (s.parentOf parentId).map (Tree.modify p (onChildren x.run)) := by
  cases parentId with
  | none => rfl
  | some q =>
    have spares := spares_of_plan distinct planned (apart q rfl)
    have found : s'.tree.find? q = (s.tree.find? q).map (Tree.modify p (onChildren x.run)) := by
      rw [after]
      exact Tree.find?_modify distinct fun _ u there => (spares u there).found
    rw [Store.parentOf, Store.parentOf, Option.bind_some, Option.bind_some, found]
    cases s.tree.find? q with
    | none => rfl
    | some u =>
      have alive : (u.modify p (onChildren x.run)).resource = u.resource :=
        Tree.resource_modify_onChildren p x.run u
      simp only [Option.map_some, alive]
      split <;> rfl

/-- A uid that a delta does not touch is among the children of a node if it was. -/
theorem any_uid_run (distinct : s.tree.uids.Nodup) (planned : d.plan s = .edit p x) {u : Tree}
    (found : s.tree.find? u.uid = some u) {q : String} (apart : q ∉ d.touched s.tree) :
    (u.modify p (onChildren x.run)).children.any (·.uid = q) = u.children.any (·.uid = q) := by
  cases u with
  | node r cs =>
    by_cases here : r.uid = p
    · subst here
      rw [Tree.modify, if_pos rfl]
      exact (spares_of_plan distinct planned apart _ found).child
    · rw [Tree.modify, if_neg here]
      exact Tree.any_uid_modifyList q cs

theorem contains_run (distinct : s.tree.uids.Nodup) (planned : d.plan s = .edit p x)
    (after : s'.tree = s.tree.modify p (onChildren x.run)) {q : String}
    (apart : q ∉ d.touched s.tree) : s'.tree.contains q = s.tree.contains q := by
  rw [Tree.contains, Tree.contains, after]
  exact Tree.isSome_find?_modify distinct (spares_of_plan distinct planned apart)

/-- After a delta, one that is independent of it comes to what it would have come to before. -/
theorem plan_run (distinct : s.tree.uids.Nodup) (planned : d.plan s = .edit p x)
    (after : s'.tree = s.tree.modify p (onChildren x.run)) {e : Delta}
    (independent : Independent s.tree d e) : e.plan s' = e.plan s := by
  have untouched : ∀ q ∈ e.touched s.tree, q ∉ d.touched s.tree :=
    independent.symm.apart
  rw [plan, plan, parentOf_run distinct planned after independent.right]
  cases named : s.parentOf e.parentId with
  | error m => rfl
  | ok parent =>
    obtain ⟨-, found, -⟩ := Store.parentOf_eq_ok named
    have sibling := any_uid_run distinct planned found (untouched e.uid (e.uid_mem_touched s.tree))
    have own := Tree.uid_modify_onChildren p x.run parent
    show e.planAt s'.tree (parent.modify p (onChildren x.run)) = e.planAt s.tree parent
    cases e with
    | add new =>
      have clash : (new.uids.any fun uid => s'.tree.contains uid) =
          new.uids.any fun uid => s.tree.contains uid := by
        rw [Bool.eq_iff_iff, List.any_eq_true, List.any_eq_true]
        refine exists_congr fun uid => and_congr_right fun member => ?_
        rw [contains_run distinct planned after (untouched uid member)]
      rw [uid] at sibling
      rw [planAt, planAt, sibling, own, clash]
    | update new =>
      rw [uid] at sibling
      rw [planAt, planAt, sibling, own]
    | remove uid parentId =>
      rw [Delta.uid] at sibling
      rw [planAt, planAt, sibling, own]

end Stable

end Delta

/-! ## Two deltas -/

namespace Store

section Two

variable {s : Store} {d e : Delta}

theorem plan_apply (distinct : s.tree.uids.Nodup) (below : d.updatesRoot s = false)
    (independent : Delta.Independent s.tree d e) : e.plan (s.apply d).1 = e.plan s := by
  obtain ⟨-, tree, -⟩ := apply_spec below
  cases planned : d.plan s with
  | refuse m =>
    rw [planned, Plan.run] at tree
    rw [Delta.plan, Delta.plan, parentOf, parentOf, tree]
  | edit p x =>
    rw [planned] at tree
    exact Delta.plan_run distinct planned tree independent

/-- A delta comes out the same after one that is independent of it. -/
theorem outcome_apply (distinct : s.tree.uids.Nodup) (below : d.updatesRoot s = false)
    (belowToo : e.updatesRoot s = false) (independent : Delta.Independent s.tree d e) :
    ((s.apply d).1.apply e).2 = (s.apply e).2 ∧
      ((s.apply d).1.apply e).1.tree = (e.plan s).run ((d.plan s).run s.tree) := by
  have still : e.updatesRoot (s.apply d).1 = false := (updatesRoot_apply below e).trans belowToo
  obtain ⟨-, tree, -⟩ := apply_spec below
  obtain ⟨outcome, -, -⟩ := apply_spec belowToo
  obtain ⟨outcomeAfter, treeAfter, -⟩ := apply_spec still
  rw [plan_apply distinct below independent] at outcomeAfter treeAfter
  rw [outcomeAfter, outcome, treeAfter, tree]
  exact ⟨rfl, rfl⟩

/-- Independent plans can be carried out in either order. -/
theorem run_run_comm (distinct : s.tree.uids.Nodup)
    (independent : Delta.Independent s.tree d e) :
    ((e.plan s).run ((d.plan s).run s.tree)).canonical =
      ((d.plan s).run ((e.plan s).run s.tree)).canonical := by
  cases first : d.plan s with
  | refuse m => rfl
  | edit p x =>
    cases second : e.plan s with
    | refuse m => rfl
    | edit q y =>
      obtain ⟨namesP, parent, found, aboutD, freshD, -⟩ := Delta.plan_eq_edit distinct first
      obtain ⟨namesQ, parent', found', aboutE, freshE, -⟩ := Delta.plan_eq_edit distinct second
      rw [Plan.run, Plan.run, Plan.run, Plan.run]
      by_cases same : p = q
      · subst same
        rw [found] at found'
        cases found'
        have other : x.uid ≠ y.uid := by
          intro one
          apply independent.apart d.uid (d.uid_mem_touched s.tree)
          rw [← aboutD, one, aboutE]
          exact e.uid_mem_touched s.tree
        rw [Tree.modify_modify, Tree.modify_modify]
        apply Tree.canonical_modify_congr
        intro u there
        rw [found] at there
        cases there
        exact Edit.run_comm (Tree.nodup_children distinct found) other freshD freshE
      · refine congrArg Tree.canonical (Tree.modify_comm distinct same ?_ ?_)
        · exact Delta.spares_of_plan distinct first (independent.right q namesQ)
        · exact Delta.spares_of_plan distinct second (independent.left p namesP)

end Two

/-- Two deltas that are independent of each other, neither of them an update of the root, come out
the same in either order and lead to the same tree, up to the order of siblings, and version.
Whether a tree that one of them adds repeats a uid within itself makes no difference. -/
theorem apply_comm {s : Store} {d e : Delta} (distinct : s.tree.uids.Nodup)
    (below : d.updatesRoot s = false) (belowToo : e.updatesRoot s = false)
    (independent : Delta.Independent s.tree d e) :
    ((s.apply e).1.apply d).2 = (s.apply d).2 ∧ ((s.apply d).1.apply e).2 = (s.apply e).2 ∧
      ((s.apply d).1.apply e).1.tree.structurallyEqual ((s.apply e).1.apply d).1.tree = true ∧
      ((s.apply d).1.apply e).1.version = ((s.apply e).1.apply d).1.version := by
  obtain ⟨outcomeD, treeD⟩ := outcome_apply distinct belowToo below independent.symm
  obtain ⟨outcomeE, treeE⟩ := outcome_apply distinct below belowToo independent
  refine ⟨outcomeD, outcomeE, ?_, ?_⟩
  · rw [Tree.structurallyEqual_iff, treeD, treeE]
    exact run_run_comm distinct independent
  · rw [apply_version, apply_version, outcomeE, apply_version, apply_version, outcomeD]
    omega

/-- A root with two workloads below it, one of them with a pod. -/
def workloads : Store :=
  (empty "flux-system" 10).replaceTree
    (.node (placed "root" none)
      [.node (placed "web" (some "root")) [.node (placed "web-1" (some "web")) []],
        .node (placed "db" (some "root")) []])

/-- Two workloads that arrive in either order stand in the order of their arrival, but the trees are
structurally equal. -/
theorem apply_comm_arrivals :
    let cache : Delta := .add (.node (placed "cache" (some "root")) [])
    let queue : Delta := .add (.node (placed "queue" (some "root")) [])
    let left := (workloads.apply cache).1.apply queue
    let right := (workloads.apply queue).1.apply cache
    left.2 = .applied ∧ right.2 = .applied ∧ left.1.tree ≠ right.1.tree ∧
      left.1.tree.structurallyEqual right.1.tree = true ∧ left.1.version = right.1.version := by
  intro cache queue left right
  have independent : Delta.Independent workloads.tree cache queue :=
    ⟨by decide, by decide, by decide⟩
  have distinct : workloads.tree.uids.Nodup := by decide
  obtain ⟨outcomeC, outcomeQ, equal, version⟩ := apply_comm distinct rfl rfl independent
  refine ⟨outcomeQ.trans (by decide), outcomeC.trans (by decide), by decide, equal, version⟩

end Store

end ResourceTree
