import Mathlib.Control.Monad.Basic
import ResourceTree.Decode
import ResourceTree.Proofs.Tree.Steps

/-!
# Which deltas keep uids distinct

A uid names one node as long as no uid stands in the tree twice. Updates below the root and removals
never bring a uid in twice, and a tree that is added is compared with the tree that is there. Two
things are not looked at: whether an added tree repeats a uid within itself, and whether the uid
that a root without uid takes over is in use below it. `duplicateUids_trail_iff` says that these are
the only two ways, along whole histories.
-/

namespace ResourceTree
set_option autoImplicit false

namespace Tree

/-- The report of repeated uids is empty only if nothing has been reported, no uid occurs twice in
what is left, and none of it has been seen. -/
theorem repeated_eq_nil_iff (uids seen found : List String) :
    repeated seen found uids = [] ↔ found = [] ∧ uids.Nodup ∧ ∀ uid ∈ uids, uid ∉ seen := by
  induction uids generalizing seen found with
  | nil => simp [repeated]
  | cons uid uids ih =>
    simp only [repeated]
    by_cases known : uid ∈ seen
    · have reported : (if found.contains uid then found else found ++ [uid]) ≠ [] := by
        split
        · next there => intro eq; simp [eq] at there
        · simp
      simp only [List.contains_eq_mem, known, decide_true, if_true, ih]
      constructor
      · intro h
        exact absurd (by simpa using h.1) reported
      · intro h
        exact absurd known (h.2.2 uid List.mem_cons_self)
    · simp only [List.contains_eq_mem, known, decide_false, Bool.false_eq_true, if_false, ih,
        List.nodup_cons, List.mem_cons, not_or, forall_eq_or_imp, not_false_eq_true, true_and]
      constructor
      · rintro ⟨empty, apart, fresh⟩
        exact ⟨empty, ⟨fun h => (fresh uid h).1 rfl, apart⟩, fun u h => (fresh u h).2⟩
      · rintro ⟨empty, ⟨once, apart⟩, fresh⟩
        exact ⟨empty, apart, fun u h => ⟨fun eq => once (eq ▸ h), fresh u h⟩⟩

/-- There are no duplicate uids exactly if all are different. -/
theorem duplicateUids_eq_nil_iff {t : Tree} : t.duplicateUids = [] ↔ t.uids.Nodup := by
  simp [duplicateUids, repeated_eq_nil_iff]

end Tree

namespace Store

/-! ## What each change does to the uids -/

/-- A merge into a child leaves the uids. -/
theorem mergeChild_uids (incoming : Resource) (ts : List Tree) :
    (Tree.resourcesList (mergeChild incoming ts)).map (·.uid) =
      (Tree.resourcesList ts).map (·.uid) := by
  induction ts with
  | nil => rfl
  | cons t ts ih =>
    cases t with
    | node r cs =>
      simp only [mergeChild]
      split
      · simp [Resource.merge]
      · simp [ih]

/-- A child that is among some siblings by its uid is found by it. -/
theorem exists_child {uid : String} {ts : List Tree} (child : ts.any (·.uid = uid) = true) :
    ∃ c, ts.find? (·.uid = uid) = some c := by
  rw [← Option.isSome_iff_exists, List.find?_isSome]
  exact List.any_eq_true.1 child

/-- The child that is found is the one that is erased. -/
theorem eraseP_of_found {q : Tree → Bool} {ts : List Tree} {c : Tree} (found : ts.find? q = some c) :
    ∃ before after, ts = before ++ c :: after ∧ ts.eraseP q = before ++ after := by
  obtain ⟨own, before, after, rfl, others⟩ := List.find?_eq_some_iff_append.1 found
  refine ⟨before, after, rfl, ?_⟩
  rw [List.eraseP_append_right _ fun t earlier => by simpa using others t earlier,
    List.eraseP_cons_of_pos own]

theorem merged_uids {s : Store} {parentId : Option String} {p : Tree}
    (h : s.parentOf parentId = .ok p) (incoming : Resource) :
    (s.changeChildren p (mergeChild incoming)).tree.uids = s.tree.uids := by
  obtain ⟨before, after, eq, changed⟩ := changeChildren_resources h
  simp only [Tree.uids_eq_map, eq, changed, List.map_append, List.map_cons, mergeChild_uids]

/-- A child that is removed takes its own uids away and moves none of the others. -/
theorem removed_uids_perm {s : Store} {parentId : Option String} {p c : Tree}
    (h : s.parentOf parentId = .ok p) {q : Tree → Bool} (found : p.children.find? q = some c) :
    s.tree.uids.Perm (c.uids ++ (s.changeChildren p (·.eraseP q)).tree.uids) := by
  obtain ⟨before, after, eq, changed⟩ := changeChildren_resources h
  obtain ⟨left, right, siblings, erased⟩ := eraseP_of_found found
  simp only [Tree.uids_eq_map, ← List.map_append]
  refine List.Perm.map _ ?_
  rw [eq, changed, erased, siblings, Tree.resourcesList_append, Tree.resourcesList_cons,
    Tree.resourcesList_append]
  calc before ++ p.resource ::
          (Tree.resourcesList left ++ (c.resources ++ Tree.resourcesList right)) ++ after
      = before ++ p.resource :: Tree.resourcesList left ++ c.resources ++
          (Tree.resourcesList right ++ after) := by simp
    _ |>.Perm (c.resources ++ (before ++ p.resource :: Tree.resourcesList left) ++
          (Tree.resourcesList right ++ after)) :=
        List.perm_append_comm.append_right _
    _ = c.resources ++ (before ++ p.resource ::
          (Tree.resourcesList left ++ Tree.resourcesList right) ++ after) := by simp

/-- An attached tree brings in its own uids and moves none of the others. -/
theorem attached_uids_perm {s : Store} {parentId : Option String} {p : Tree}
    (h : s.parentOf parentId = .ok p) (t : Tree) :
    (s.changeChildren p (· ++ [t])).tree.uids.Perm (t.uids ++ s.tree.uids) := by
  obtain ⟨before, after, eq, changed⟩ := changeChildren_resources h
  simp only [Tree.uids_eq_map, ← List.map_append]
  refine List.Perm.map _ ?_
  have last := changed (· ++ [t])
  simp only [Tree.resourcesList_append, Tree.resourcesList_cons, Tree.resourcesList_nil,
    List.append_nil] at last
  rw [last, eq]
  calc before ++ p.resource :: (Tree.resourcesList p.children ++ t.resources) ++ after
      = before ++ p.resource :: Tree.resourcesList p.children ++ t.resources ++ after := by simp
    _ |>.Perm (t.resources ++ (before ++ p.resource :: Tree.resourcesList p.children) ++ after) :=
        List.perm_append_comm.append_right after
    _ = t.resources ++ (before ++ p.resource :: Tree.resourcesList p.children ++ after) := by simp

/-- A merge into the root leaves the uids, but for a root that had none. -/
theorem mergeRoot_uids (incoming : Resource) (t : Tree) :
    (mergeRoot incoming t).uids =
      (if t.uid = "" then incoming.uid else t.uid) ::
        (Tree.resourcesList t.children).map (·.uid) := by
  cases t with
  | node r cs =>
    by_cases nameless : r.uid = ""
    · simp [mergeRoot, Tree.uids_eq_map, Tree.children, Tree.uid, Tree.resource, Resource.merge,
        nameless]
    · simp [mergeRoot, Tree.uids_eq_map, Tree.children, Tree.uid, Tree.resource, Resource.merge,
        nameless]

/-! ## One delta -/

/-- A root without uid takes over the uid of an update. -/
def RootAdopts (s : Store) (incoming : Resource) : Prop :=
  s.tree.uid = "" ∧ incoming.uid ≠ "" ∧ s.targetsRoot incoming = true

/-- A delta under which distinct uids stay distinct: a tree that is attached repeats no uid within
itself, and a root does not take over a uid that is in use. -/
def KeepsDistinct (s : Store) : Delta → Prop
  | .add t => s.Attaches t → t.uids.Nodup
  | .update t => s.RootAdopts t.resource → t.uid ∉ s.tree.uids
  | .remove _ _ => True

/-- An add keeps the uids different if those it brings in are new and different. -/
theorem add_nodup_iff {s : Store} (distinct : s.tree.uids.Nodup) (t : Tree) :
    (s.add t).1.tree.uids.Nodup ↔ s.KeepsDistinct (.add t) := by
  rcases s.add_cases t with ⟨out, m, -, eq⟩ | ⟨out, p, parent, -, eq⟩ | ⟨attaches, p, parent, eq⟩
  · simp [eq, KeepsDistinct, out, distinct]
  · simp [eq, KeepsDistinct, out, merged_uids parent, distinct]
  · rw [eq, (attached_uids_perm parent t).nodup_iff, List.nodup_append]
    constructor
    · intro h _
      exact h.1
    · intro h
      exact ⟨h attaches, distinct, fun u own v old same => attaches.2 u own (same ▸ old)⟩

/-- An update keeps the uids different unless the root takes one that is in use. -/
theorem update_nodup_iff {s : Store} (distinct : s.tree.uids.Nodup) (t : Tree) :
    (s.update t).1.tree.uids.Nodup ↔ s.KeepsDistinct (.update t) := by
  rcases s.update_cases t with ⟨below, m, -, eq⟩ | ⟨below, p, parent, -, eq⟩ | ⟨root, eq⟩
  · simp [eq, KeepsDistinct, RootAdopts, below, distinct]
  · simp [eq, KeepsDistinct, RootAdopts, below, merged_uids parent, distinct]
  · have uids := Tree.uids_eq_cons s.tree
    have own : t.resource.uid = t.uid := rfl
    rw [uids] at distinct
    simp only [eq, change, mergeRoot_uids, KeepsDistinct, RootAdopts, root, and_true, uids, own]
    generalize (Tree.resourcesList s.tree.children).map (·.uid) = below at distinct
    obtain ⟨once, apart⟩ := List.nodup_cons.1 distinct
    by_cases nameless : s.tree.uid = ""
    · rw [nameless] at once
      by_cases blank : t.uid = ""
      · simp [nameless, blank, once, apart]
      · simp [nameless, blank, apart]
    · simp [nameless, once, apart]

/-- A removal keeps the uids different. -/
theorem remove_nodup {s : Store} (distinct : s.tree.uids.Nodup) (uid : String)
    (parentId : Option String) : (s.remove uid parentId).1.tree.uids.Nodup := by
  rcases s.remove_cases uid parentId with ⟨m, -, eq⟩ | ⟨p, parent, child, eq⟩
  · simpa [eq] using distinct
  · obtain ⟨c, found⟩ := exists_child child
    rw [eq, dropStaleSelection_tree]
    exact (List.nodup_append.1 ((removed_uids_perm parent found).nodup_iff.1 distinct)).2.1

/-- A delta keeps the uids different exactly if it brings in none that is there. -/
theorem apply_nodup_iff {s : Store} (distinct : s.tree.uids.Nodup) (d : Delta) :
    (s.apply d).1.tree.uids.Nodup ↔ s.KeepsDistinct d := by
  cases d with
  | add t => exact add_nodup_iff distinct t
  | update t => exact update_nodup_iff distinct t
  | remove uid parentId => exact iff_of_true (remove_nodup distinct uid parentId) trivial

/-! ## Histories -/

/-- Every delta of a history keeps uids distinct in the store that it comes to. -/
def KeepsDistinctAlong : Store → List Delta → Prop
  | _, [] => True
  | s, d :: ds => s.KeepsDistinct d ∧ (s.apply d).1.KeepsDistinctAlong ds

/-- So does a history, delta by delta. -/
theorem nodup_trail_iff {s : Store} (distinct : s.tree.uids.Nodup) (ds : List Delta) :
    (∀ s' ∈ s.trail ds, s'.tree.uids.Nodup) ↔ s.KeepsDistinctAlong ds := by
  induction ds generalizing s with
  | nil => simp [trail, KeepsDistinctAlong]
  | cons d ds ih =>
    rw [trail, KeepsDistinctAlong, List.forall_mem_cons, apply_nodup_iff distinct d]
    -- the rest of the history starts from distinct uids exactly if this delta kept them
    exact and_congr_right fun keeps => ih ((apply_nodup_iff distinct d).2 keeps)

/-- After each delta of a history no uid occurs twice, if and only if none of the deltas attaches a
tree that repeats a uid and none hands the root a uid in use. -/
theorem duplicateUids_trail_iff {s : Store} (distinct : s.tree.duplicateUids = [])
    (ds : List Delta) :
    (∀ s' ∈ s.trail ds, s'.tree.duplicateUids = []) ↔ s.KeepsDistinctAlong ds := by
  simp only [Tree.duplicateUids_eq_nil_iff] at distinct ⊢
  exact nodup_trail_iff distinct ds

/-- A resource of which only the place in a tree is known. -/
def placed (uid : String) (parentId : Option String) : Resource :=
  { Resource.placeholder with uid, parentId }

/-- A store that holds a root and nothing below it. -/
def loneRoot : Store :=
  (empty "flux-system" 10).replaceTree (.node (placed "root" none) [])

theorem duplicateUids_trail_iff_loneRoot :
    let ds : List Delta :=
      [.add (.node (placed "a" (some "root")) [.node (placed "b" (some "a")) []]),
        .add (.node (placed "b" (some "root")) []), .update (.node (placed "b" (some "a")) []),
        .remove "a" (some "root")]
    loneRoot.tree.duplicateUids = [] ∧
      ((∀ s' ∈ loneRoot.trail ds, s'.tree.duplicateUids = []) ↔ loneRoot.KeepsDistinctAlong ds) :=
  ⟨by decide, duplicateUids_trail_iff (by decide) _⟩

/-- The record of a resource below the root with two children of one uid. -/
def twins : Wire.Node :=
  .node { uid := "a", parentId := some "root", createdAt := "2025-01-01T00:00:00Z" }
    [.node { uid := "b", createdAt := "2025-01-01T00:00:00Z" } [],
      .node { uid := "b", createdAt := "2025-01-01T00:00:00Z" } []]

/-- A store whose root has no uid, with one resource below it. -/
def namelessRoot : Store :=
  (empty "flux-system" 10).replaceTree (.node (placed "" none) [.node (placed "x" (some "")) []])

/-- The record of an update of the root that gives the uid of another resource. -/
def claimant : Wire.Node :=
  .node
    { uid := "x", name := "flux-system", kind := "Kustomization", ns := some "flux-system"
      createdAt := "2025-01-01T00:00:00Z" }
    []

/-- Both ways in which a single delta that decodes makes a uid occur twice. -/
theorem repeated_uids_of_one_delta :
    loneRoot.tree.duplicateUids = [] ∧
    (Decode.node twins).map (fun t => (loneRoot.trail [.add t]).map (·.tree.duplicateUids)) =
      .ok [["b"]] ∧
    namelessRoot.tree.duplicateUids = [] ∧
    (Decode.node claimant).map
        (fun t => (namelessRoot.trail [.update t]).map (·.tree.duplicateUids)) =
      .ok [["x"]] := by
  refine ⟨by decide, ?_, by decide, ?_⟩
  · decide +kernel
  · decide +kernel

end Store

end ResourceTree
