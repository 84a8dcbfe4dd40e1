import ResourceTree.Proofs.Tree.Lookup
import ResourceTree.Tree.Run

/-!
# What a delta can do to a store

One lemma for each kind of delta lists all that it can come to: it is refused and the store is as
before, or the children of one named node change in one of three ways, or the root takes an update.
Later proofs go through these cases and do not open the operations again.
-/

namespace ResourceTree.Store
set_option autoImplicit false

/-- An added tree becomes a new child: its parent is there and no tombstone, and none of its uids
is in the tree. -/
def Attaches (s : Store) (t : Tree) : Prop :=
  (∃ p, s.parentOf t.resource.parentId = .ok p) ∧ ∀ uid ∈ t.uids, uid ∉ s.tree.uids

/-- A parent that is taken is there and is no tombstone. -/
theorem parentOf_eq_ok {s : Store} {parentId : Option String} {p : Tree}
    (h : s.parentOf parentId = .ok p) :
    parentId = some p.uid ∧ s.tree.find? p.uid = some p ∧ p.resource.isTombstone = false := by
  unfold parentOf at h
  split at h
  · cases h
  · next parent found =>
    split at h
    · cases h
    · next alive =>
      cases h
      obtain ⟨uid, rfl, found⟩ := Option.bind_eq_some_iff.1 found
      rw [Tree.find?_uid found]
      exact ⟨rfl, found, by simpa using alive⟩

/-- A node that is there and is no tombstone is taken for a parent. -/
theorem parentOf_of_found {s : Store} {uid : String} {p : Tree} (found : s.tree.find? uid = some p)
    (alive : p.resource.isTombstone = false) : s.parentOf (some uid) = .ok p := by
  rw [parentOf, Option.bind_some, found]
  simp only [alive, Bool.false_eq_true, if_false]

/-- A delta that is refused for its parent is not applied. -/
theorem parentOf_eq_error {s : Store} {parentId : Option String} {m : Mutation}
    (h : s.parentOf parentId = .error m) : m ≠ .applied := by
  unfold parentOf at h
  split at h
  · cases h; decide
  · split at h
    · cases h; decide
    · cases h

/-- The resources around a parent stay where they are when its children change. -/
theorem changeChildren_resources {s : Store} {parentId : Option String} {p : Tree}
    (h : s.parentOf parentId = .ok p) :
    ∃ before after,
      s.tree.resources = before ++ p.resource :: Tree.resourcesList p.children ++ after ∧
      ∀ f, (s.changeChildren p f).tree.resources =
        before ++ p.resource :: Tree.resourcesList (f p.children) ++ after := by
  obtain ⟨before, after, eq, changed⟩ := Tree.exists_context (parentOf_eq_ok h).2.1
  refine ⟨before, after, by rw [eq, Tree.resources_eq_cons p], fun f => ?_⟩
  have there := changed (onChildren f)
  cases p with
  | node r cs => simpa [changeChildren, change, onChildren, Tree.resource, Tree.children] using there

/-- The uids of a parent's children are in the tree. -/
theorem child_uid_mem {s : Store} {parentId : Option String} {p : Tree}
    (h : s.parentOf parentId = .ok p) {uid : String}
    (child : uid ∈ (Tree.resourcesList p.children).map (·.uid)) : uid ∈ s.tree.uids := by
  obtain ⟨before, after, eq, -⟩ := changeChildren_resources h
  rw [Tree.uids_eq_map, eq]
  simp [child]

theorem uid_mem_resourcesList {ts : List Tree} {uid : String} (h : ts.any (·.uid = uid) = true) :
    uid ∈ (Tree.resourcesList ts).map (·.uid) := by
  obtain ⟨t, member, eq⟩ := List.any_eq_true.1 h
  have here : t.resource.uid = uid := of_decide_eq_true eq
  induction ts with
  | nil => cases member
  | cons u us ih =>
    rw [Tree.resourcesList_cons, List.map_append, List.mem_append]
    rcases List.mem_cons.1 member with rfl | member
    · exact .inl (by rw [Tree.resources_eq_cons, List.map_cons, here]; exact List.mem_cons_self)
    · exact .inr (ih (List.any_eq_true.2 ⟨t, member, eq⟩) member)

/-- An add is refused, merged into a child of the same uid, or attaches its tree. -/
theorem add_cases (s : Store) (t : Tree) :
    (¬ s.Attaches t ∧ ∃ m, m ≠ .applied ∧ s.add t = (s, m)) ∨
    (¬ s.Attaches t ∧ ∃ p, s.parentOf t.resource.parentId = .ok p ∧
      p.children.any (·.uid = t.uid) = true ∧
      s.add t = (s.changeChildren p (mergeChild t.resource), .applied)) ∨
    (s.Attaches t ∧ ∃ p, s.parentOf t.resource.parentId = .ok p ∧
      s.add t = (s.changeChildren p (· ++ [t]), .applied)) := by
  have own : t.uid ∈ t.uids := Tree.uid_mem_uids t
  unfold add
  cases parent : s.parentOf t.resource.parentId with
  | error m =>
    refine .inl ⟨fun attaches => ?_, m, parentOf_eq_error parent, rfl⟩
    obtain ⟨p, there⟩ := attaches.1
    rw [parent] at there
    cases there
  | ok p =>
    by_cases sibling : p.children.any (·.uid = t.uid) = true
    · refine .inr (.inl ⟨fun attaches => ?_, p, rfl, sibling, by simp only [sibling, if_true]⟩)
      exact attaches.2 _ own (child_uid_mem parent (uid_mem_resourcesList sibling))
    · by_cases clash : (t.uids.any fun uid => s.tree.contains uid) = true
      · refine .inl ⟨fun attaches => ?_, .duplicateUid, by decide, by simp only [sibling, clash]; rfl⟩
        obtain ⟨uid, member, there⟩ := List.any_eq_true.1 clash
        exact attaches.2 uid member (Tree.contains_iff.1 there)
      · refine .inr (.inr ⟨⟨⟨p, parent⟩, fun uid member there => clash ?_⟩, p, rfl,
          by simp only [sibling, clash]; rfl⟩)
        exact List.any_eq_true.2 ⟨uid, member, Tree.contains_iff.2 there⟩

/-- An update is refused, merged into a child, or merged into the root. -/
theorem update_cases (s : Store) (t : Tree) :
    (s.targetsRoot t.resource = false ∧ ∃ m, m ≠ .applied ∧ s.update t = (s, m)) ∨
    (s.targetsRoot t.resource = false ∧ ∃ p, s.parentOf t.resource.parentId = .ok p ∧
      p.children.any (·.uid = t.uid) = true ∧
      s.update t = (s.changeChildren p (mergeChild t.resource), .applied)) ∨
    (s.targetsRoot t.resource = true ∧
      s.update t = (s.change (mergeRoot t.resource s.tree), .applied)) := by
  unfold update
  by_cases root : s.targetsRoot t.resource = true
  · exact .inr (.inr ⟨root, by simp only [root, if_true]⟩)
  · have below : s.targetsRoot t.resource = false := by simpa using root
    simp only [below, Bool.false_eq_true, if_false, true_and, false_and, or_false]
    cases parent : s.parentOf t.resource.parentId with
    | error m => exact .inl ⟨m, parentOf_eq_error parent, rfl⟩
    | ok p =>
      by_cases child : p.children.any (·.uid = t.uid) = true
      · exact .inr ⟨p, rfl, child, by simp only [child, if_true]⟩
      · exact .inl ⟨.missingNode, by decide, by simp only [child]; rfl⟩

/-- A removal is refused, or takes the child away and drops the selection if that is gone. -/
theorem remove_cases (s : Store) (uid : String) (parentId : Option String) :
    (∃ m, m ≠ .applied ∧ s.remove uid parentId = (s, m)) ∨
    (∃ p, s.parentOf parentId = .ok p ∧ p.children.any (·.uid = uid) = true ∧
      s.remove uid parentId =
        ((s.changeChildren p (·.eraseP (·.uid = uid))).dropStaleSelection, .applied)) := by
  unfold remove
  cases parent : s.parentOf parentId with
  | error m => exact .inl ⟨m, parentOf_eq_error parent, rfl⟩
  | ok p =>
    by_cases child : p.children.any (·.uid = uid) = true
    · exact .inr ⟨p, rfl, child, by simp only [child, if_true]⟩
    · exact .inl ⟨.missingNode, by decide, by simp only [child]; rfl⟩

/-- Dropping the selection touches nothing else. -/
theorem dropStaleSelection_eq (s : Store) :
    ∃ selected, s.dropStaleSelection = { s with selected } := by
  unfold dropStaleSelection
  split
  · exact ⟨none, rfl⟩
  · exact ⟨s.selected, rfl⟩

theorem dropStaleSelection_tree (s : Store) : s.dropStaleSelection.tree = s.tree := by
  obtain ⟨selected, eq⟩ := dropStaleSelection_eq s
  rw [eq]

theorem perform_of_appended {s s' : Store} {uid : String} {line : LogLine}
    (appended : s.appendLog? uid line = some s') : s.perform (.appendLog uid line) = s' := by
  rw [perform, appended, Option.getD_some]

/-- A delta is applied, and the tree and perhaps the selection are new, or the store is as before. -/
theorem apply_cases (s : Store) (d : Delta) :
    ((s.apply d).2 = .applied ∧ ∃ tree selected,
      (s.apply d).1 = { s with tree, selected, version := s.version + 1 }) ∨
    ((s.apply d).2 ≠ .applied ∧ (s.apply d).1 = s) := by
  cases d with
  | add t =>
    rw [apply]
    rcases s.add_cases t with ⟨-, m, refused, eq⟩ | ⟨-, p, -, -, eq⟩ | ⟨-, p, -, eq⟩
    · rw [eq]; exact .inr ⟨refused, rfl⟩
    · rw [eq]; exact .inl ⟨rfl, _, s.selected, rfl⟩
    · rw [eq]; exact .inl ⟨rfl, _, s.selected, rfl⟩
  | update t =>
    rw [apply]
    rcases s.update_cases t with ⟨-, m, refused, eq⟩ | ⟨-, p, -, -, eq⟩ | ⟨-, eq⟩
    · rw [eq]; exact .inr ⟨refused, rfl⟩
    · rw [eq]; exact .inl ⟨rfl, _, s.selected, rfl⟩
    · rw [eq]; exact .inl ⟨rfl, _, s.selected, rfl⟩
  | remove uid parentId =>
    rw [apply]
    rcases s.remove_cases uid parentId with ⟨m, refused, eq⟩ | ⟨p, -, -, eq⟩
    · rw [eq]; exact .inr ⟨refused, rfl⟩
    · obtain ⟨selected, dropped⟩ := dropStaleSelection_eq
        (s.changeChildren p (·.eraseP (·.uid = uid)))
      rw [eq, dropped]
      exact .inl ⟨rfl, _, selected, rfl⟩

end ResourceTree.Store
