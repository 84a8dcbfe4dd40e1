import ResourceTree.Proofs.Tree.Redelivery
import ResourceTree.Proofs.Tree.Reordering

/-!
# What an update touches

An update that is applied is about one node: the root, if it has the uid of the root or comes from the
application that always stands there, and otherwise the child that has its uid below the parent that it
names. Where uids are distinct, the tree after it is the tree before it with the resource of that node
replaced wherever it stands, which is once. `update_frame` says so, and that nothing at all happens if
the uid stands elsewhere.
-/

namespace ResourceTree
set_option autoImplicit false

/-- A resource, or another one in place of it if it has a uid. -/
def Resource.replacedAt (uid : String) (new r : Resource) : Resource := if r.uid = uid then new else r

namespace Tree

open Store (onChildren mergeChild mergeRoot)

/-- The tree with another resource at every node of a uid. Its shape and all other resources stay. -/
def replaceAt (uid : String) (new : Resource) (t : Tree) : Tree := t.map (.replacedAt uid new)

/-- The same among siblings and all that stands below them. -/
def replaceListAt (uid : String) (new : Resource) (ts : List Tree) : List Tree :=
  mapList (.replacedAt uid new) ts

variable {uid p : String} {new r : Resource} {cs ts : List Tree} {t u : Tree}

/-! ## A change at one place, as a replacement -/

mutual

/-- A change that fixes every record leaves the tree. -/
theorem map_eq_self {f : Resource → Resource} {t : Tree} (fixed : ∀ r ∈ t.resources, f r = r) :
    t.map f = t := by
  cases t with
  | node r cs =>
    rw [resources_node, List.forall_mem_cons] at fixed
    rw [map, fixed.1, mapList_eq_self fixed.2]

theorem mapList_eq_self {f : Resource → Resource} {ts : List Tree}
    (fixed : ∀ r ∈ resourcesList ts, f r = r) : mapList f ts = ts := by
  cases ts with
  | nil => rfl
  | cons t ts =>
    rw [resourcesList_cons, List.forall_mem_append] at fixed
    rw [mapList, map_eq_self fixed.1, mapList_eq_self fixed.2]

end

theorem replaceListAt_absent {ts : List Tree} (new : Resource)
    (absent : uid ∉ (resourcesList ts).map (·.uid)) :
    replaceListAt uid new ts = ts := by
  refine mapList_eq_self fun r member => if_neg ?_
  rintro rfl
  exact absent (List.mem_map_of_mem member)

/-- At a uid that is not there nothing is replaced. -/
theorem replaceAt_absent (new : Resource) (absent : uid ∉ t.uids) : t.replaceAt uid new = t := by
  refine map_eq_self fun r member => if_neg ?_
  rintro rfl
  rw [uids_eq_map] at absent
  exact absent (List.mem_map_of_mem member)

theorem replaceListAt_cons :
    replaceListAt uid new (t :: ts) = t.replaceAt uid new :: replaceListAt uid new ts :=
  rfl

theorem replaceAt_node_below (other : r.uid ≠ uid) :
    (node r cs).replaceAt uid new = node r (replaceListAt uid new cs) := by
  rw [replaceAt, map, Resource.replacedAt, if_neg other, replaceListAt]

/-- A root of distinct uids is replaced alone. -/
theorem replaceAt_root (new : Resource) (distinct : (node r cs).uids.Nodup) :
    (node r cs).replaceAt r.uid new = node new cs := by
  have below := replaceListAt_absent new (nodup_node.1 distinct).1
  rw [replaceListAt] at below
  rw [replaceAt, map, Resource.replacedAt, if_pos rfl, below]

/-- What is in a subtree is in the tree. -/
theorem mem_uids_of_found (found : t.find? p = some u) (inside : uid ∈ u.uids) : uid ∈ t.uids := by
  obtain ⟨before, after, eq, -⟩ := exists_context found
  rw [uids_eq_map] at inside ⊢
  rw [eq, List.map_append, List.map_append]
  exact List.mem_append_left _ (List.mem_append_right _ inside)

theorem mem_uids_of_foundList {ts : List Tree} (found : findList? p ts = some u)
    (inside : uid ∈ u.uids) : uid ∈ (resourcesList ts).map (·.uid) := by
  obtain ⟨before, after, eq, -⟩ := exists_contextList found
  rw [uids_eq_map] at inside
  rw [eq, List.map_append, List.map_append]
  exact List.mem_append_left _ (List.mem_append_right _ inside)

mutual

/-- A change of a node that replaces one resource within it replaces the resource in the tree. -/
theorem modify_eq_replaceAt {f : Tree → Tree} {t : Tree} (distinct : t.uids.Nodup)
    (found : t.find? p = some u) (inside : uid ∈ u.uids) (here : f u = u.replaceAt uid new) :
    t.modify p f = t.replaceAt uid new := by
  cases t with
  | node r cs =>
    rw [find?] at found
    rw [modify]
    split at found
    · next own =>
      cases found
      rw [if_pos own, here]
    · next other =>
      obtain ⟨once, below⟩ := nodup_node.1 distinct
      have apart : r.uid ≠ uid := fun same => once (same ▸ mem_uids_of_foundList found inside)
      rw [if_neg other, replaceAt_node_below apart, modifyList_eq_replaceListAt below found inside here]

theorem modifyList_eq_replaceListAt {f : Tree → Tree} {ts : List Tree}
    (distinct : ((resourcesList ts).map (·.uid)).Nodup) (found : findList? p ts = some u)
    (inside : uid ∈ u.uids) (here : f u = u.replaceAt uid new) :
    modifyList p f ts = replaceListAt uid new ts := by
  cases ts with
  | nil => cases found
  | cons t ts =>
    obtain ⟨own, rest, apart⟩ := nodup_cons.1 distinct
    cases present : t.find? p with
    | some v =>
      rw [findList?_cons_of_some present] at found
      cases found
      have elsewhere := replaceListAt_absent new (apart uid (mem_uids_of_found present inside))
      rw [modifyList_cons_of_some present, modify_eq_replaceAt own present inside here,
        replaceListAt_cons, elsewhere]
    | none =>
      rw [findList?_cons_of_none present] at found
      have later := mem_uids_of_foundList found inside
      have elsewhere := replaceAt_absent new fun earlier => apart uid earlier later
      rw [modifyList_cons_of_none present, modifyList_eq_replaceListAt rest found inside here,
        replaceListAt_cons, elsewhere]

end

/-- Among siblings of distinct uids, a child that takes an update is replaced alone. -/
theorem mergeChild_eq_replaceListAt {incoming : Resource} {c : Tree}
    (distinct : ((resourcesList ts).map (·.uid)).Nodup) (child : c ∈ ts)
    (own : c.uid = incoming.uid) :
    mergeChild incoming ts = replaceListAt incoming.uid (c.resource.merge incoming) ts := by
  induction ts with
  | nil => cases child
  | cons t ts ih =>
    obtain ⟨once, rest, apart⟩ := nodup_cons.1 distinct
    rcases List.mem_cons.1 child with rfl | later
    · have elsewhere := apart incoming.uid (own ▸ uid_mem_uids c)
      cases c with
      | node r cs =>
        have here : r.uid = incoming.uid := own
        rw [mergeChild, if_pos here, replaceListAt_cons, replaceListAt_absent _ elsewhere, ← here,
          replaceAt_root _ once]
        rfl
    · have there := Store.uid_mem_resourcesList
        (List.any_eq_true.2 ⟨c, later, decide_eq_true own⟩)
      have absent : incoming.uid ∉ t.uids := fun earlier => apart _ earlier there
      rw [replaceListAt_cons, replaceAt_absent _ absent, ← ih rest later]
      cases t with
      | node r cs =>
        rw [mergeChild, if_neg]
        rintro same
        exact absent (same ▸ uid_mem_uids (node r cs))

end Tree

/-- What an update makes of a resource: it keeps its uid, unless it has none, and its log lines, and takes
up further events; all else is as in the update, the parent apart, which depends on the place. -/
def Resource.afterUpdate (r incoming : Resource) (parentId : Option String) : Resource :=
  { incoming with
    uid := if r.uid = "" then incoming.uid else r.uid
    logs := r.logs
    events := Event.merge r.events incoming.events
    parentId }

/-- A merge into a child takes every field but its own place and its log lines from the update. -/
theorem Resource.merge_eq_afterUpdate {r incoming : Resource} (own : r.uid = incoming.uid)
    (named : incoming.parentId.isSome) :
    r.merge incoming = r.afterUpdate incoming incoming.parentId := by
  obtain ⟨parentId, given⟩ := Option.isSome_iff_exists.1 named
  rw [merge, afterUpdate, given, ← own, ite_self]
  rfl

theorem Resource.named_merge_eq_afterUpdate (r incoming : Resource) :
    (r.named incoming.uid).merge { incoming with parentId := none } =
      r.afterUpdate incoming r.parentId := by
  rw [named, merge, afterUpdate]
  split <;> rfl

namespace Store

open ResourceTree.Tree (replaceAt)

variable {s : Store} {t p : Tree} {n : Resource}

/-- An update is about the root: it has the uid of the root, or it comes from the application that always
stands there, in the namespace of the store. -/
def AtRoot (s : Store) (n : Resource) : Prop :=
  n.uid ≠ "" ∧ s.tree.uid = n.uid ∨
    n.name = "flux-system" ∧ n.kind = "Kustomization" ∧ n.ns = some s.fluxNamespace

instance (s : Store) (n : Resource) : Decidable (s.AtRoot n) := inferInstanceAs (Decidable (_ ∨ _))

/-- An update is about the root if it has its uid or comes from the application that always stands
there. -/
theorem targetsRoot_iff : s.targetsRoot n = true ↔ s.AtRoot n := by
  simp only [targetsRoot, AtRoot, Bool.or_eq_true, Bool.and_eq_true, decide_eq_true_eq, and_assoc]
  exact Iff.rfl

/-- The node that an update is about, and the parent that it has after the update. -/
inductive Target (s : Store) (n : Resource) : Tree → Option String → Prop where
  | root (aims : s.AtRoot n) : Target s n s.tree s.tree.resource.parentId
  | child {p c : Tree} (below : ¬ s.AtRoot n) (parent : p ∈ s.tree.subtrees)
      (alive : p.resource.isTombstone = false) (names : n.parentId = some p.uid)
      (member : c ∈ p.children) (own : c.uid = n.uid) :
      Target s n c n.parentId

/-- A merge into the root replaces its record. -/
theorem mergeRoot_eq_replaceAt {t : Tree} (distinct : t.uids.Nodup) (incoming : Resource) :
    mergeRoot incoming t =
      t.replaceAt t.uid (t.resource.afterUpdate incoming t.resource.parentId) := by
  cases t with
  | node r cs =>
    have replaced := Tree.replaceAt_root (r.afterUpdate incoming r.parentId) distinct
    rw [mergeRoot_node, Resource.named_merge_eq_afterUpdate]
    exact replaced.symm

/-- A child that takes an update below its parent is replaced in the tree. -/
theorem changeChildren_eq_replaceAt {parentId : Option String} {c : Tree}
    (distinct : s.tree.uids.Nodup) (parent : s.parentOf parentId = .ok p) (child : c ∈ p.children)
    (own : c.uid = n.uid) :
    s.changeChildren p (mergeChild n) =
      s.change (s.tree.replaceAt n.uid (c.resource.merge n)) := by
  obtain ⟨-, found, -⟩ := parentOf_eq_ok parent
  have inside := uid_mem_resourcesList (List.any_eq_true.2 ⟨c, child, decide_eq_true own⟩)
  have once := Tree.nodup_of_found distinct found
  rw [changeChildren, Tree.modify_eq_replaceAt distinct found]
  · rw [Tree.uids_eq_cons]
    exact List.mem_cons_of_mem _ inside
  · cases p with
    | node r cs =>
      obtain ⟨above, below⟩ := Tree.nodup_node.1 once
      have apart : r.uid ≠ n.uid := fun same => above (same ▸ inside)
      rw [Tree.replaceAt_node_below apart, onChildren]
      exact congrArg (Tree.node r) (Tree.mergeChild_eq_replaceListAt below child own)

/-- The node that an update is about takes it, and all else in the store is as before but for the
version. -/
theorem update_of_target {u : Tree} {parentId : Option String} (distinct : s.tree.uids.Nodup)
    (target : s.Target t.resource u parentId) :
    s.update t =
      ({ s with
          tree := s.tree.replaceAt u.uid (u.resource.afterUpdate t.resource parentId)
          version := s.version + 1 },
        .applied) := by
  cases target with
  | root aims =>
    rw [update_of_root (targetsRoot_iff.2 aims), mergeRoot_eq_replaceAt distinct]
    rfl
  | @child p _ below parent alive names member own =>
    have there : s.parentOf t.resource.parentId = .ok p := by
      rw [names]
      exact parentOf_of_found (Tree.find?_of_mem_subtrees distinct parent) alive
    have away : s.targetsRoot t.resource = false :=
      Bool.eq_false_iff.2 fun root => below (targetsRoot_iff.1 root)
    have child : p.children.any (·.uid = t.uid) = true :=
      List.any_eq_true.2 ⟨u, member, decide_eq_true own⟩
    rw [update_of_child away there child, changeChildren_eq_replaceAt distinct there member own,
      Resource.merge_eq_afterUpdate own (names ▸ rfl), own]
    rfl

/-- An update that is applied has a target. -/
theorem exists_target (applied : (s.update t).2 = .applied) :
    ∃ u parentId, s.Target t.resource u parentId := by
  rcases s.update_cases t with ⟨-, m, refused, eq⟩ | ⟨below, p, parent, child, -⟩ | ⟨root, -⟩
  · rw [eq] at applied
    exact absurd applied refused
  · obtain ⟨names, found, alive⟩ := parentOf_eq_ok parent
    obtain ⟨c, member, own⟩ := List.any_eq_true.1 child
    have away : ¬ s.AtRoot t.resource := by
      rw [← targetsRoot_iff, below]
      exact Bool.false_ne_true
    exact ⟨c, _, .child away (Tree.find?_mem_subtrees found) alive names member (of_decide_eq_true own)⟩
  · exact ⟨s.tree, _, .root (targetsRoot_iff.1 root)⟩

/-- Where uids are distinct, an update is applied exactly if there is a node that it is about. The
resource of this node is replaced then, and all else in the store is as before but for the version. An
update whose uid stands elsewhere than below the parent that it names is not applied and changes
nothing, unless it is about the root. -/
theorem update_frame {s : Store} (distinct : s.tree.uids.Nodup) (t : Tree) :
    ((s.update t).2 = .applied ↔ ∃ u parentId, s.Target t.resource u parentId) ∧
    (∀ u parentId, s.Target t.resource u parentId →
      (s.update t).1 =
        { s with
          tree := s.tree.replaceAt u.uid (u.resource.afterUpdate t.resource parentId)
          version := s.version + 1 }) ∧
    ∀ v ∈ s.tree.subtrees, v.uid = t.uid →
      (∀ p ∈ s.tree.subtrees, t.resource.parentId = some p.uid → v ∉ p.children) →
      ¬ s.AtRoot t.resource → (s.update t).2 ≠ .applied ∧ (s.update t).1 = s := by
  refine ⟨⟨exists_target, ?_⟩, ?_, ?_⟩
  · rintro ⟨u, parentId, target⟩
    rw [update_of_target distinct target]
  · intro u parentId target
    rw [update_of_target distinct target]
  · intro v inside same elsewhere notRoot
    have refused : (s.update t).2 ≠ .applied := by
      intro applied
      obtain ⟨u, parentId, target⟩ := exists_target applied
      cases target with
      | root aims => exact notRoot aims
      | child below parent alive names member own =>
        -- the child has the uid of the node that stands elsewhere, so it is that node
        have first := Tree.find?_of_mem_subtrees distinct inside
        have second := Tree.find?_of_mem_subtrees distinct (Tree.child_mem_subtrees parent member)
        rw [own, ← show v.uid = t.resource.uid from same, first] at second
        cases second
        exact elsewhere _ parent names member
    rcases s.apply_cases (.update t) with ⟨applied, -⟩ | ⟨-, unchanged⟩
    · exact absurd applied refused
    · exact ⟨refused, unchanged⟩

/-- A pod is updated below its workload, the root by its application whatever parent that names, and an
update that looks for the pod below the root does nothing. -/
theorem update_frame_workloads :
    let pod : Tree :=
      .node { placed "web-1" (some "web") with kind := "Pod" } [.node (placed "x" (some "web-1")) []]
    let flux : Tree :=
      .node
        { placed "flux" (some "web") with
          name := "flux-system", kind := "Kustomization", ns := some "flux-system" }
        []
    let stray : Tree := .node { placed "web-1" (some "root") with kind := "Pod" } []
    workloads.tree.uids.Nodup ∧ (workloads.update pod).2 = .applied ∧
      (workloads.update pod).1.tree = workloads.tree.replaceAt "web-1"
        ((placed "web-1" (some "web")).afterUpdate pod.resource (some "web")) ∧
      (workloads.update flux).2 = .applied ∧
      (workloads.update flux).1.tree =
        workloads.tree.replaceAt "root" ((placed "root" none).afterUpdate flux.resource none) ∧
      (workloads.update stray).1 = workloads := by
  intro pod flux stray
  have distinct : workloads.tree.uids.Nodup := by decide
  let web : Tree := .node (placed "web" (some "root")) [.node (placed "web-1" (some "web")) []]
  let old : Tree := .node (placed "web-1" (some "web")) []
  have podTarget : workloads.Target pod.resource old (some "web") :=
    .child (p := web) (by decide) (by decide) rfl rfl (by decide) rfl
  have fluxTarget : workloads.Target flux.resource workloads.tree none := .root (by decide)
  obtain ⟨podFound, podReplaced, -⟩ := update_frame distinct pod
  obtain ⟨fluxFound, fluxReplaced, -⟩ := update_frame distinct flux
  obtain ⟨-, -, elsewhere⟩ := update_frame distinct stray
  have nothing := elsewhere old (by decide) rfl (by decide) (by decide)
  exact ⟨distinct, podFound.2 ⟨_, _, podTarget⟩, congrArg Store.tree (podReplaced _ _ podTarget),
    fluxFound.2 ⟨_, _, fluxTarget⟩, congrArg Store.tree (fluxReplaced _ _ fluxTarget), nothing.2⟩

end Store

end ResourceTree
