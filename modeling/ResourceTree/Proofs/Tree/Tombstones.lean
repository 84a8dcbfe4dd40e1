import ResourceTree.Proofs.Tree.Reordering

/-!
# Tombstones

A resource that is gone from the cluster stays in the tree for a while, marked as a tombstone. Its
own fields may still change and what stands below its children may, but no delta reaches the
children themselves: one that names a tombstone as the parent is refused, and one that names another
parent changes the children of that one. `tombstone_frozen` says so along whole histories.
-/

namespace ResourceTree
set_option autoImplicit false

open Store (onChildren mergeChild)

namespace Tree

/-! ## What stands right below a node -/

/-- The resources right below the node of a uid. -/
def offspring? (uid : String) (t : Tree) : Option (List Resource) :=
  (t.find? uid).map fun u => u.children.map resource

/-- The same among siblings and all that stands below them. -/
def offspringList? (uid : String) (ts : List Tree) : Option (List Resource) :=
  (findList? uid ts).map fun u => u.children.map resource

section Offspring

variable {uid p : String} {r : Resource} {cs ts : List Tree} {t : Tree}

/-- The children of the root stand right below it. -/
theorem offspring?_node (here : r.uid = uid) :
    (node r cs).offspring? uid = some (cs.map resource) := by
  rw [offspring?, find?, if_pos here, Option.map_some, children]

theorem offspring?_node_below (other : r.uid ≠ uid) :
    (node r cs).offspring? uid = offspringList? uid cs := by
  rw [offspring?, find?, if_neg other, offspringList?]

theorem offspringList?_cons :
    offspringList? uid (t :: ts) = (t.offspring? uid).or (offspringList? uid ts) := by
  rw [offspringList?, findList?, Option.map_or, offspring?, offspringList?]

mutual

/-- What stands right below one node stays as it is when the children of another change, as long as
that change leaves it so. -/
theorem offspring?_modify {f : List Tree → List Tree} {t : Tree} (other : uid ≠ p)
    (kept : ∀ u, t.find? p = some u →
      offspringList? uid (f u.children) = offspringList? uid u.children) :
    (t.modify p (onChildren f)).offspring? uid = t.offspring? uid := by
  cases t with
  | node r cs =>
    rw [find?] at kept
    by_cases sought : r.uid = uid
    · rw [modify, if_neg (sought ▸ other), offspring?_node sought, offspring?_node sought,
        map_resource_modifyList]
    · rw [offspring?_node_below sought, modify]
      by_cases here : r.uid = p
      · rw [if_pos here] at kept ⊢
        rw [onChildren, offspring?_node_below sought]
        exact kept _ rfl
      · rw [if_neg here] at kept ⊢
        rw [offspring?_node_below sought]
        exact offspringList?_modifyList other kept

theorem offspringList?_modifyList {f : List Tree → List Tree} {ts : List Tree} (other : uid ≠ p)
    (kept : ∀ u, findList? p ts = some u →
      offspringList? uid (f u.children) = offspringList? uid u.children) :
    offspringList? uid (modifyList p (onChildren f) ts) = offspringList? uid ts := by
  cases ts with
  | nil => rfl
  | cons t ts =>
    cases found : t.find? p with
    | some u =>
      rw [modifyList_cons_of_some found, offspringList?_cons, offspringList?_cons,
        offspring?_modify other fun v here => kept v (findList?_cons_of_some here)]
    | none =>
      rw [findList?_cons_of_none found] at kept
      rw [modifyList_cons_of_none found, offspringList?_cons, offspringList?_cons,
        offspringList?_modifyList other kept]

end

end Offspring

/-- An update leaves what stands right below any node among or below some siblings. -/
theorem offspringList?_mergeChild (uid : String) (incoming : Resource) (ts : List Tree) :
    offspringList? uid (mergeChild incoming ts) = offspringList? uid ts := by
  induction ts with
  | nil => rfl
  | cons t ts ih =>
    cases t with
    | node r cs =>
      rw [mergeChild]
      split
      · have merged : (r.merge incoming).uid = r.uid := rfl
        rw [offspringList?_cons, offspringList?_cons]
        by_cases sought : r.uid = uid
        · rw [offspring?_node sought, offspring?_node (merged.trans sought)]
        · rw [offspring?_node_below sought, offspring?_node_below (merged ▸ sought)]
      · rw [offspringList?_cons, offspringList?_cons, ih]

/-- A change that spares a uid leaves what stands right below it. -/
theorem Spares.offspring {uid : String} {f : List Tree → List Tree} {ts : List Tree}
    (spares : Spares uid f ts) : offspringList? uid (f ts) = offspringList? uid ts := by
  rw [offspringList?, offspringList?, spares.found]

/-! ## The tombstone and its tree -/

/-- Whether the node of a uid is there, and is a tombstone. -/
def holdsTombstone (uid : String) (t : Tree) : Bool := (t.find? uid).any (·.resource.isTombstone)

/-- A tree whose root has a uid, and in which one node only has some uid and stands right above given
resources. -/
structure Frozen (t : Tree) (uid : String) (below : List Resource) : Prop where
  named : t.uid ≠ ""
  once : t.uids.count uid = 1
  offspring : t.offspring? uid = some below

/-- A tombstone stands in the tree. -/
theorem mem_of_holdsTombstone {t : Tree} {uid : String} (tombstone : t.holdsTombstone uid = true) :
    uid ∈ t.uids := by
  obtain ⟨u, found, -⟩ := (Option.any_eq_true _ _).1 tombstone
  rw [← contains_iff, contains, found, Option.isSome_some]

/-- The root takes an update. It may be the tombstone itself. -/
theorem Frozen.mergeRoot {t : Tree} {uid : String} {below : List Resource}
    (frozen : t.Frozen uid below) (incoming : Resource) :
    (Store.mergeRoot incoming t).Frozen uid below := by
  obtain ⟨named, once, offspring⟩ := frozen
  have uids : (Store.mergeRoot incoming t).uids = t.uids := by
    rw [Store.mergeRoot_uids, if_neg named, uids_eq_cons]
  cases t with
  | node r cs =>
    have own : r.uid ≠ "" := named
    have merged : Store.mergeRoot incoming (.node r cs) =
        .node (r.merge { incoming with parentId := none }) cs := by
      rw [Store.mergeRoot, if_neg own]
    refine ⟨?_, uids ▸ once, ?_⟩
    · rw [merged]
      exact own
    · rw [merged, ← offspring]
      by_cases here : r.uid = uid
      · rw [offspring?_node here]
        exact offspring?_node here
      · rw [offspring?_node_below here]
        exact offspring?_node_below here

end Tree

namespace Store

section Delta

variable {s : Store} {uid : String} {d : Delta}

/-! ## Deltas that name the tombstone as parent -/

/-- A tombstone is refused as a parent. -/
theorem parentOf_tombstone (tombstone : s.tree.holdsTombstone uid = true) :
    s.parentOf (some uid) = .error .tombstonedParent := by
  obtain ⟨u, found, dead⟩ := (Option.any_eq_true _ _).1 tombstone
  rw [parentOf, Option.bind_some, found]
  simp only [dead, if_true]

/-- A delta whose parent cannot be changed leaves the store as it is, unless it is about the root. -/
theorem apply_of_refused {m : Mutation} (refused : s.parentOf d.parentId = .error m)
    (notRoot : d.updatesRoot s = false) : s.apply d = (s, m) := by
  cases d with
  | add t =>
    have parent : s.parentOf t.resource.parentId = .error m := refused
    rw [apply, add, parent]
  | update t =>
    have parent : s.parentOf t.resource.parentId = .error m := refused
    have below : s.targetsRoot t.resource = false := notRoot
    rw [apply, update, below, if_neg Bool.false_ne_true, parent]
  | remove uid parentId =>
    have parent : s.parentOf parentId = .error m := refused
    rw [apply, remove, parent]

/-! ## All deltas -/

variable {below : List Resource} {p : Tree} {parentId : Option String}

/-- A change of the children of a node that is no tombstone. -/
theorem frozen_changeChildren (frozen : s.tree.Frozen uid below)
    (tombstone : s.tree.holdsTombstone uid = true) (parent : s.parentOf parentId = .ok p)
    {f : List Tree → List Tree} (once : (s.changeChildren p f).tree.uids.count uid = 1)
    (kept : Tree.offspringList? uid (f p.children) = Tree.offspringList? uid p.children) :
    (s.changeChildren p f).tree.Frozen uid below := by
  obtain ⟨rfl, found, -⟩ := parentOf_eq_ok parent
  have other : uid ≠ p.uid := by
    rintro rfl
    rw [parentOf_tombstone tombstone] at parent
    cases parent
  refine ⟨?_, once, ?_⟩
  · have root : (s.changeChildren p f).tree.uid = s.tree.uid :=
      Tree.uid_modify_onChildren p.uid f s.tree
    rw [root]
    exact frozen.named
  · rw [← frozen.offspring]
    refine Tree.offspring?_modify other fun u there => ?_
    cases found.symm.trans there
    exact kept

theorem frozen_mergeChild (frozen : s.tree.Frozen uid below)
    (tombstone : s.tree.holdsTombstone uid = true) (parent : s.parentOf parentId = .ok p)
    (incoming : Resource) : (s.changeChildren p (mergeChild incoming)).tree.Frozen uid below := by
  refine frozen_changeChildren frozen tombstone parent ?_ ?_
  · rw [merged_uids parent, frozen.once]
  · exact Tree.offspringList?_mergeChild uid incoming p.children

/-- A delta that leaves the tombstone in the tree leaves what stands right below it. -/
theorem frozen_apply (frozen : s.tree.Frozen uid below)
    (tombstone : s.tree.holdsTombstone uid = true)
    (stays : (s.apply d).1.tree.holdsTombstone uid = true) :
    (s.apply d).1.tree.Frozen uid below := by
  cases d with
  | add t =>
    rw [apply]
    rcases s.add_cases t with ⟨-, m, -, eq⟩ | ⟨-, p, parent, -, eq⟩ | ⟨attaches, p, parent, eq⟩
    · rw [eq]
      exact frozen
    · rw [eq]
      exact frozen_mergeChild frozen tombstone parent t.resource
    · have apart : uid ∉ t.uids :=
        fun new => attaches.2 uid new (Tree.mem_of_holdsTombstone tombstone)
      rw [eq]
      refine frozen_changeChildren frozen tombstone parent ?_ (Edit.attach_spares apart _).offspring
      rw [(attached_uids_perm parent t).count_eq, List.count_append, frozen.once,
        List.count_eq_zero.2 apart]
  | update t =>
    rw [apply]
    rcases s.update_cases t with ⟨-, m, -, eq⟩ | ⟨-, p, parent, -, eq⟩ | ⟨-, eq⟩
    · rw [eq]
      exact frozen
    · rw [eq]
      exact frozen_mergeChild frozen tombstone parent t.resource
    · rw [eq]
      exact frozen.mergeRoot t.resource
  | remove gone parentId =>
    rw [apply] at stays ⊢
    rcases s.remove_cases gone parentId with ⟨m, -, eq⟩ | ⟨p, parent, child, eq⟩
    · rw [eq]
      exact frozen
    · obtain ⟨c, found⟩ := exists_child child
      rw [eq, dropStaleSelection_tree] at stays ⊢
      -- the tombstone is not within what goes, since it was there once and is there still
      have parted := (removed_uids_perm parent found).count_eq uid
      rw [List.count_append, frozen.once] at parted
      have still := List.count_pos_iff.2 (Tree.mem_of_holdsTombstone stays)
      have apart : uid ∉ c.uids := by
        rw [← List.count_eq_zero]
        omega
      have spares : Tree.Spares uid (·.eraseP (·.uid = gone)) p.children :=
        Edit.detach_spares fun t there => Option.some.inj (found.symm.trans there) ▸ apart
      exact frozen_changeChildren frozen tombstone parent (by omega) spares.offspring

/-- As long as the tombstone stands nothing changes right below it. -/
theorem frozen_trail {ds : List Delta} (frozen : s.tree.Frozen uid below)
    (tombstone : ∀ now ∈ s :: s.trail ds, now.tree.holdsTombstone uid = true) :
    ∀ now ∈ s :: s.trail ds, now.tree.Frozen uid below := by
  induction ds generalizing s with
  | nil => exact List.forall_mem_cons.2 ⟨frozen, fun _ none => nomatch none⟩
  | cons d ds ih =>
    rw [trail, List.forall_mem_cons] at tombstone ⊢
    obtain ⟨here, later⟩ := tombstone
    exact ⟨frozen, ih (frozen_apply frozen here (later _ List.mem_cons_self)) later⟩

end Delta

/-- As long as a tombstone is in the tree, the only node of its uid, its children stay the ones that
they were, in their order and in all that they are apart from what stands below them. A delta that
names the tombstone as the parent is refused and changes nothing, unless it updates the root. -/
theorem tombstone_frozen {s : Store} {p : Tree} {ds : List Delta} (named : s.tree.uid ≠ "")
    (member : p ∈ s.tree.subtrees) (once : s.tree.uids.count p.uid = 1)
    (tombstone : ∀ now ∈ s :: s.trail ds, now.tree.holdsTombstone p.uid = true) :
    ∀ now ∈ s :: s.trail ds,
      now.tree.offspring? p.uid = some (p.children.map Tree.resource) ∧
      ∀ d : Delta, d.parentId = some p.uid → d.updatesRoot now = false →
        now.apply d = (now, .tombstonedParent) := by
  have frozen : s.tree.Frozen p.uid (p.children.map Tree.resource) := by
    refine ⟨named, once, ?_⟩
    rw [Tree.offspring?, Tree.find?_of_once (Nat.le_of_eq once) member, Option.map_some]
  intro now stage
  refine ⟨(frozen_trail frozen tombstone now stage).offspring, fun d names notRoot => ?_⟩
  apply apply_of_refused _ notRoot
  rw [names]
  exact parentOf_tombstone (tombstone now stage)

/-- A workload that is gone, with two pods that were left behind. -/
def grave : Tree :=
  .node { placed "web" (some "root") with deletedAt := some .epoch }
    [.node (placed "web-1" (some "web")) [.node (placed "log" (some "web-1")) []],
      .node (placed "web-2" (some "web")) []]

/-- A root with a workload that is gone and one that is not. -/
def graveyard : Store :=
  (empty "flux-system" 10).replaceTree
    (.node (placed "root" none) [grave, .node (placed "db" (some "root")) []])

/-- The dead workload is updated and stays dead, what stands below one of its pods goes, and so does
its sibling. The pods are as they were, and neither of them can be removed. -/
theorem tombstone_frozen_graveyard :
    let ds : List Delta :=
      [.update (.node { placed "web" (some "root") with name := "w", deletedAt := some .epoch } []),
        .remove "log" (some "web-1"), .add (.node (placed "web-3" (some "web")) []),
        .remove "db" (some "root")]
    let last := ds.foldl (fun s d => (s.apply d).1) graveyard
    last.tree.offspring? "web" = some [placed "web-1" (some "web"), placed "web-2" (some "web")] ∧
      last.apply (.remove "web-2" (some "web")) = (last, .tombstonedParent) ∧
      last.version = graveyard.version + 3 := by
  intro ds last
  have dead : ∀ now ∈ graveyard :: graveyard.trail ds, now.tree.holdsTombstone grave.uid = true := by
    decide
  have member : grave ∈ graveyard.tree.subtrees := by decide
  have once : graveyard.tree.uids.count grave.uid = 1 := by decide
  obtain ⟨pods, refused⟩ := tombstone_frozen (by decide) member once dead last
    (.tail _ (.tail _ (.tail _ (.tail _ (.head _)))))
  exact ⟨pods, refused (.remove "web-2" (some "web")) rfl rfl, by decide⟩

end Store

end ResourceTree
