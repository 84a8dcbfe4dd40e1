import ResourceTree.Proofs.Tree.Additions

/-!
# Adding and removing undo each other

A node that is removed and added again finds its parent and stands last among its siblings, so that
the tree is as before up to their order. A node that is added and removed again leaves the tree
exactly as it was: what comes in with it has none of the uids that are there, so that no look-up of
one of them finds something else.
-/

namespace ResourceTree.Store
set_option autoImplicit false

variable {s : Store} {t p u : Tree} {parentId : Option String}

/-! ## One step -/

/-- A tree of new uids is attached to its parent. -/
theorem add_of_fresh (parent : s.parentOf t.resource.parentId = .ok p)
    (fresh : ∀ uid ∈ t.uids, uid ∉ s.tree.uids) :
    s.add t = (s.changeChildren p (· ++ [t]), .applied) := by
  have attaches : s.Attaches t := ⟨⟨p, parent⟩, fresh⟩
  rcases s.add_cases t with ⟨out, -⟩ | ⟨out, -⟩ | ⟨-, p', parent', eq⟩
  · exact absurd attaches out
  · exact absurd attaches out
  · cases parent.symm.trans parent'
    exact eq

/-- A child is detached from its parent. -/
theorem remove_of_child {uid : String} (parent : s.parentOf parentId = .ok p)
    (child : p.children.any (·.uid = uid) = true) :
    s.remove uid parentId =
      ((s.changeChildren p (·.eraseP (·.uid = uid))).dropStaleSelection, .applied) := by
  rw [remove, parent]
  simp only [child, if_true]

/-- Parents are found without looking at the selection. -/
theorem parentOf_dropStaleSelection (s : Store) (parentId : Option String) :
    s.dropStaleSelection.parentOf parentId = s.parentOf parentId := by
  rw [parentOf, parentOf, dropStaleSelection_tree]

theorem tree_changeChildren (s : Store) (p : Tree) (f : List Tree → List Tree) :
    (s.changeChildren p f).tree = s.tree.modify p.uid (onChildren f) :=
  rfl

/-! ## Siblings -/

section Siblings

variable {ts : List Tree}

/-- Among siblings of different uids a child is found by its uid. -/
theorem find?_child (distinct : (ts.map Tree.uid).Nodup) (child : u ∈ ts) :
    ts.find? (·.uid = u.uid) = some u := by
  obtain ⟨c, found⟩ := exists_child (List.any_eq_true.2 ⟨u, child, decide_eq_true rfl⟩)
  have same : c.uid = u.uid := by simpa using List.find?_some found
  rw [found, List.inj_on_of_nodup_map distinct (List.mem_of_find?_eq_some found) child same]

/-- One of some siblings is put last. -/
theorem arranged_eraseP_append (distinct : (ts.map Tree.uid).Nodup) (child : u ∈ ts) :
    Tree.arranged (ts.eraseP (·.uid = u.uid) ++ [u]) = Tree.arranged ts := by
  obtain ⟨before, after, rfl, erased⟩ := eraseP_of_found (find?_child distinct child)
  refine (Tree.arranged_perm distinct ?_).symm
  rw [erased]
  calc before ++ u :: after
    _ |>.Perm (u :: (before ++ after)) := List.perm_middle
    _ |>.Perm (before ++ after ++ [u]) := (List.perm_append_singleton u _).symm

/-- A new child that is attached and detached again leaves the siblings as they were. -/
theorem eraseP_append_new (new : t.uid ∉ ts.map Tree.uid) :
    (ts ++ [t]).eraseP (·.uid = t.uid) = ts := by
  have others : ∀ c ∈ ts, ¬ decide (c.uid = t.uid) = true := by
    intro c member same
    exact new (List.mem_map.2 ⟨c, member, of_decide_eq_true same⟩)
  rw [List.eraseP_append_right _ others, List.eraseP_cons_of_pos (by simp), List.append_nil]

end Siblings

/-! ## Both steps -/

/-- A child that is removed and added again is there as before, up to the order of siblings. -/
theorem remove_add (distinct : s.tree.uids.Nodup) (linked : s.tree.ParentsLinked)
    (member : p ∈ s.tree.subtrees) (alive : p.resource.isTombstone = false)
    (child : u ∈ p.children) :
    let removed := s.remove u.uid (some p.uid)
    let added := removed.1.add u
    removed.2 = .applied ∧ added.2 = .applied ∧
      added.1.tree.structurallyEqual s.tree = true := by
  intro removed added
  have found := Tree.find?_of_mem_subtrees distinct member
  have parent := parentOf_of_found found alive
  have siblings := Tree.nodup_children distinct found
  let less : List Tree → List Tree := (·.eraseP (·.uid = u.uid))
  let rest := s.changeChildren p less
  have gone : removed = (rest.dropStaleSelection, .applied) :=
    remove_of_child parent (List.any_eq_true.2 ⟨u, child, decide_eq_true rfl⟩)
  have there : rest.dropStaleSelection.parentOf u.resource.parentId = .ok (onChildren less p) := by
    rw [linked p member u child, parentOf_dropStaleSelection]
    exact parentOf_changeChildren parent less
  have fresh : ∀ uid ∈ u.uids, uid ∉ rest.dropStaleSelection.tree.uids := by
    have parted := removed_uids_perm parent (find?_child siblings child)
    have apart := (List.nodup_append.1 (parted.nodup_iff.1 distinct)).2.2
    rw [dropStaleSelection_tree]
    exact fun uid own left => apart uid own uid left rfl
  have back : added =
      (rest.dropStaleSelection.changeChildren (onChildren less p) (· ++ [u]), .applied) := by
    show removed.1.add u = _
    rw [gone]
    exact add_of_fresh there fresh
  refine ⟨congrArg Prod.snd gone, congrArg Prod.snd back, ?_⟩
  rw [back, Tree.structurallyEqual_iff]
  calc (rest.dropStaleSelection.changeChildren (onChildren less p) (· ++ [u])).tree.canonical
    _ = (s.tree.modify p.uid (onChildren fun ts => less ts ++ [u])).canonical := by
      rw [tree_changeChildren, dropStaleSelection_tree, Tree.uid_onChildren, tree_changeChildren,
        Tree.modify_modify]
    _ = (s.tree.modify p.uid (onChildren id)).canonical := by
      refine Tree.canonical_modify_congr fun v same => ?_
      cases found.symm.trans same
      exact arranged_eraseP_append siblings child
    _ = s.tree.canonical := by
      refine congrArg Tree.canonical (Tree.modify_fixed fun v _ => ?_)
      cases v with
      | node r cs => rfl

/-- A new tree that is added and removed again leaves the very tree from before. -/
theorem add_remove
    (new : ∀ p, t.resource.parentId.bind (s.tree.find? ·) = some p → t.uid ∉ p.children.map Tree.uid)
    (applied : (s.add t).2 = .applied) :
    let removed := (s.add t).1.remove t.uid t.resource.parentId
    removed.2 = .applied ∧ removed.1.tree = s.tree := by
  intro removed
  rcases s.add_cases t with ⟨-, m, refused, eq⟩ | ⟨-, p, parent, sibling, -⟩ | ⟨-, p, parent, eq⟩
  · rw [eq] at applied
    exact absurd applied refused
  · obtain ⟨p', found, known⟩ := hasChild_of_sibling parent sibling
    exact absurd known (new p' found)
  · obtain ⟨names, found, -⟩ := parentOf_eq_ok parent
    let less : List Tree → List Tree := (·.eraseP (·.uid = t.uid))
    have last : (onChildren (· ++ [t]) p).children.any (·.uid = t.uid) = true := by
      cases p with
      | node r cs => exact List.any_eq_true.2 ⟨t, List.mem_append_right cs List.mem_cons_self, by simp⟩
    have gone : removed =
        (((s.changeChildren p (· ++ [t])).changeChildren (onChildren (· ++ [t]) p)
          less).dropStaleSelection, .applied) := by
      show (s.add t).1.remove t.uid t.resource.parentId = _
      rw [eq]
      exact remove_of_child (parentOf_changeChildren parent _) last
    refine ⟨congrArg Prod.snd gone, ?_⟩
    rw [gone, dropStaleSelection_tree, tree_changeChildren, tree_changeChildren,
      Tree.uid_onChildren, Tree.modify_modify]
    refine Tree.modify_fixed fun v there => ?_
    cases found.symm.trans there
    have absent := new p (by rw [names, Option.bind_some, found])
    cases p with
    | node r cs => exact congrArg (Tree.node r) (eraseP_append_new absent)

/-- In a tree with distinct uids and right parent links, a node below one that is no tombstone can
be removed and added again, and the trees before and after are structurally equal. In any tree, a node
that was added and has not been there under its parent can be removed again, and the tree is the one
before. -/
theorem add_remove_undo (s : Store) :
    (s.tree.uids.Nodup → s.tree.ParentsLinked →
      ∀ p ∈ s.tree.subtrees, p.resource.isTombstone = false → ∀ u ∈ p.children,
        let removed := s.remove u.uid (some p.uid)
        let added := removed.1.add u
        removed.2 = .applied ∧ added.2 = .applied ∧
          added.1.tree.structurallyEqual s.tree = true) ∧
    ∀ t : Tree,
      (∀ p, t.resource.parentId.bind (s.tree.find? ·) = some p →
        t.uid ∉ p.children.map Tree.uid) →
      (s.add t).2 = .applied →
        let removed := (s.add t).1.remove t.uid t.resource.parentId
        removed.2 = .applied ∧ removed.1.tree = s.tree :=
  ⟨fun distinct linked _ member alive _ child => remove_add distinct linked member alive child,
    fun _ new applied => add_remove new applied⟩

/-- The first of two workloads goes and comes again after the other one, and a further pod comes and
goes. -/
theorem add_remove_undo_workloads :
    let web : Tree := .node (placed "web" (some "root")) [.node (placed "web-1" (some "web")) []]
    let pod : Tree := .node (placed "web-2" (some "web")) []
    let back := (workloads.remove "web" (some "root")).1.add web
    let less := (workloads.add pod).1.remove "web-2" (some "web")
    (back.2 = .applied ∧ back.1.tree.structurallyEqual workloads.tree = true ∧
        back.1.tree ≠ workloads.tree) ∧
      (workloads.add pod).2 = .applied ∧ less.2 = .applied ∧ less.1.tree = workloads.tree := by
  intro web pod back less
  obtain ⟨restored, undone⟩ := add_remove_undo workloads
  have linked : workloads.tree.ParentsLinked := by
    unfold Tree.ParentsLinked
    decide
  obtain ⟨-, again, same⟩ := restored (by decide) linked workloads.tree (by decide) rfl web (by decide)
  have new : ∀ p, pod.resource.parentId.bind (workloads.tree.find? ·) = some p →
      pod.uid ∉ p.children.map Tree.uid := by
    intro p found
    have parent : pod.resource.parentId.bind (workloads.tree.find? ·) = some web := by decide
    cases parent.symm.trans found
    decide
  have added : (workloads.add pod).2 = .applied := by decide
  exact ⟨⟨again, same, by decide⟩, added, undone pod new added⟩

end ResourceTree.Store
