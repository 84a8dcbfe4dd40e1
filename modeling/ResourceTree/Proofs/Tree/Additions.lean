import ResourceTree.Proofs.Tree.Reordering

/-!
# What an add brings in

Two different things are answered as an add that is applied. A tree whose uid is new below its parent
becomes a child with all that stands below it; one whose uid is there already is taken for an update of
that child, which keeps its own children, so that those of the update are passed over. No uid goes
missing either way, and which ones come in depends on nothing but that.
-/

namespace ResourceTree
set_option autoImplicit false

/-- Whatever stands in a tree under a uid that is not empty is found. -/
theorem Tree.exists_resolve? {uid : String} {t : Tree} (named : uid ≠ "") (member : uid ∈ t.uids) :
    ∃ u, t.resolve? uid = some u ∧ u.uid = uid := by
  obtain ⟨u, found⟩ := Option.isSome_iff_exists.1 (contains_iff.2 member)
  exact ⟨u, (if_neg named).trans found, find?_uid found⟩

namespace Store

variable {s : Store} {t : Tree}

/-- The node that a tree names as its parent has a child of the tree's uid. -/
def HasChild (s : Store) (t : Tree) : Prop :=
  ∃ p, t.resource.parentId.bind (s.tree.find? ·) = some p ∧ t.uid ∈ p.children.map Tree.uid

theorem hasChild_of_sibling {p : Tree} (parent : s.parentOf t.resource.parentId = .ok p)
    (sibling : p.children.any (·.uid = t.uid) = true) : s.HasChild t := by
  obtain ⟨names, found, -⟩ := parentOf_eq_ok parent
  obtain ⟨c, child, same⟩ := List.any_eq_true.1 sibling
  exact ⟨p, by rw [names, Option.bind_some, found], List.mem_map.2 ⟨c, child, of_decide_eq_true same⟩⟩

theorem not_hasChild_of_attaches (attaches : s.Attaches t) : ¬ s.HasChild t := by
  rintro ⟨p, found, known⟩
  obtain ⟨parentId, -, there⟩ := Option.bind_eq_some_iff.1 found
  obtain ⟨c, child, same⟩ := List.mem_map.1 known
  have inside := Tree.child_mem_subtrees (Tree.find?_mem_subtrees there) child
  exact attaches.2 t.uid (Tree.uid_mem_uids t) (same ▸ List.mem_map_of_mem inside)

/-- An add that is applied leaves the uids as they are or brings in those of the whole tree. -/
theorem uids_of_applied_add (applied : (s.add t).2 = .applied) :
    (s.HasChild t ∧ t.uid ∈ s.tree.uids ∧ (s.add t).1.tree.uids = s.tree.uids) ∨
      (¬ s.HasChild t ∧ (s.add t).1.tree.uids.Perm (t.uids ++ s.tree.uids)) := by
  rcases s.add_cases t with ⟨-, m, refused, eq⟩ | ⟨-, p, parent, sibling, eq⟩ | ⟨attaches, p, parent, eq⟩
  · rw [eq] at applied
    exact absurd applied refused
  · have known := child_uid_mem parent (uid_mem_resourcesList sibling)
    rw [eq]
    exact .inl ⟨hasChild_of_sibling parent sibling, known, merged_uids parent t.resource⟩
  · rw [eq]
    exact .inr ⟨not_hasChild_of_attaches attaches, attached_uids_perm parent t⟩

/-- An add takes no uid away, whatever its answer. -/
theorem uids_subset_add (s : Store) (t : Tree) : s.tree.uids ⊆ (s.add t).1.tree.uids := by
  rcases s.apply_cases (.add t) with ⟨applied, -⟩ | ⟨-, same⟩
  · rcases uids_of_applied_add applied with ⟨-, -, same⟩ | ⟨-, joined⟩
    · rw [same]
      exact List.Subset.refl _
    · exact fun uid old => joined.mem_iff.2 (List.mem_append_right t.uids old)
  · rw [apply] at same
    rw [same]
    exact List.Subset.refl _

/-- After an add that is applied every uid that was in the tree is still there, that of the added tree is
there, and with it all that stand below it, if the named parent had no child of that uid; otherwise
the uids are those from before. Each of them but the empty one is found. -/
theorem add_loses_nothing {s : Store} {t : Tree} (applied : (s.add t).2 = .applied) :
    let after := (s.add t).1.tree
    s.tree.uids ⊆ after.uids ∧ t.uid ∈ after.uids ∧
      (¬ s.HasChild t → t.uids ⊆ after.uids) ∧ (s.HasChild t → after.uids = s.tree.uids) ∧
      ∀ uid ∈ after.uids, uid ≠ "" → ∃ u, after.resolve? uid = some u ∧ u.uid = uid := by
  intro after
  have found : ∀ uid ∈ after.uids, uid ≠ "" → ∃ u, after.resolve? uid = some u ∧ u.uid = uid :=
    fun uid member named => Tree.exists_resolve? named member
  rcases uids_of_applied_add applied with ⟨known, own, same⟩ | ⟨new, joined⟩
  · exact ⟨uids_subset_add s t, same ▸ own, fun new => absurd known new, fun _ => same, found⟩
  · have brought : t.uids ⊆ after.uids := fun uid own =>
      joined.mem_iff.2 (List.mem_append_left s.tree.uids own)
    exact ⟨uids_subset_add s t, brought (Tree.uid_mem_uids t), fun _ => brought,
      fun known => absurd known new, found⟩

/-- A pod comes in with what stands below it, and a workload that is there already brings in nothing. -/
theorem add_loses_nothing_workloads :
    let pod : Tree := .node (placed "web-2" (some "web")) [.node (placed "log" (some "web-2")) []]
    let again : Tree := .node (placed "web" (some "root")) [.node (placed "web-2" (some "web")) []]
    (workloads.add pod).2 = .applied ∧ workloads.tree.uids ⊆ (workloads.add pod).1.tree.uids ∧
      pod.uids ⊆ (workloads.add pod).1.tree.uids ∧
      (workloads.add again).2 = .applied ∧
      (workloads.add again).1.tree.uids = workloads.tree.uids := by
  intro pod again
  have added : (workloads.add pod).2 = .applied := by decide
  have merged : (workloads.add again).2 = .applied := by decide
  obtain ⟨kept, -, joined, -, -⟩ := add_loses_nothing added
  obtain ⟨-, -, -, same, -⟩ := add_loses_nothing merged
  have new : ¬ workloads.HasChild pod := not_hasChild_of_attaches ⟨⟨_, rfl⟩, by decide⟩
  have known : workloads.HasChild again := ⟨workloads.tree, by decide, by decide⟩
  exact ⟨added, kept, joined new, merged, same known⟩

/-- A workload that is added again with a further pod: the add is applied, but the pod is not there. -/
theorem add_again_passes_over_children :
    let again : Tree := .node (placed "web" (some "root")) [.node (placed "web-2" (some "web")) []]
    let after := (workloads.add again).1.tree
    (workloads.add again).2 = .applied ∧ "web-2" ∈ again.uids ∧ "web-2" ∉ after.uids ∧
      after.resolve? "web-2" = none := by
  decide

end Store

end ResourceTree
