import ResourceTree.Proofs.History
import ResourceTree.Proofs.Tree.Outline
import ResourceTree.Proofs.Tree.Uniqueness

/-!
# Where the selection leads

A store keeps the uid of the selected node. Snapshots and removals drop a uid that has gone, and
every other operation but one keeps all uids. That one is an update of a root without uid, which
takes over the uid of the update: a selection of the root by the empty uid then leads nowhere, or to
another node, and one of the uid that is taken over leads to the root. `selection_kept_iff` says
that nothing else detaches a selection.
-/

namespace ResourceTree.Store
set_option autoImplicit false

/-- The selected uid, if there is one, leads to a node of the tree. -/
def SelectionResolves (s : Store) : Prop :=
  ∀ uid, s.selected = some uid →
    ∃ t ∈ s.tree.subtrees, s.selectedNode? = some t ∧ t.uid = uid

/-- The place of the selected node in the tree, counted in pre-order. An update moves no node, so it
is the same node exactly if it is at the same place. -/
def selectedPlace? (s : Store) : Option Nat :=
  s.selected.bind fun uid => s.tree.uids.idxOf? uid

/-- An operation after which the selection resolves, to the same node as before if it is an
update. -/
def KeepsSelection (s : Store) (o : Operation) : Prop :=
  (s.perform o).SelectionResolves ∧
    ∀ t, o = .delta (.update t) → (s.perform o).selectedPlace? = s.selectedPlace?

/-- An update that gives a root without uid its uid, while the root is selected by the empty uid or
another node by the uid that is given. -/
def Detaches (s : Store) (t : Tree) : Prop :=
  s.RootAdopts t.resource ∧ (s.selected = some "" ∨ s.selected = some t.uid)

/-- An update that gives a root without uid its uid, while the root is selected and no other node is
without uid. -/
def Strands (s : Store) (t : Tree) : Prop :=
  s.RootAdopts t.resource ∧ s.selected = some "" ∧
    "" ∉ (Tree.resourcesList s.tree.children).map (·.uid)

/-- The selection is found exactly if the tree has its uid. -/
theorem selectionResolves_iff {s : Store} :
    s.SelectionResolves ↔ ∀ uid, s.selected = some uid → uid ∈ s.tree.uids := by
  refine forall_congr' fun uid => imp_congr_right fun selected => ?_
  rw [← Tree.contains_iff, Tree.contains, Option.isSome_iff_exists, selectedNode?, selected,
    Option.bind_some]
  constructor
  · rintro ⟨t, -, found, -⟩
    exact ⟨t, found⟩
  · rintro ⟨t, found⟩
    exact ⟨t, Tree.find?_mem_subtrees found, found, Tree.find?_uid found⟩

/-- Where no uid is lost, a selection that stays resolves as before. -/
theorem SelectionResolves.mono {s s' : Store} (resolves : s.SelectionResolves)
    (selected : s'.selected = s.selected) (uids : ∀ uid ∈ s.tree.uids, uid ∈ s'.tree.uids) :
    s'.SelectionResolves := by
  rw [selectionResolves_iff] at resolves ⊢
  intro uid chosen
  exact uids uid (resolves uid (selected ▸ chosen))

/-- A selection that is left after dropping a stale one is found. -/
theorem dropStaleSelection_resolves (s : Store) : s.dropStaleSelection.SelectionResolves := by
  rw [selectionResolves_iff]
  unfold dropStaleSelection
  split
  · intro uid chosen
    cases chosen
  · next fresh =>
    intro uid chosen
    rw [chosen, Option.any_some, Bool.not_eq_true', Bool.not_eq_false] at fresh
    exact Tree.contains_iff.1 fresh

theorem select_resolves {s s' : Store} {uid : String} (h : s.select? uid = some s') :
    s'.SelectionResolves := by
  obtain ⟨t, found, rfl⟩ := Option.map_eq_some_iff.1 h
  rw [selectionResolves_iff]
  intro uid' chosen
  cases chosen
  unfold Tree.resolve? at found
  split at found
  · cases found
    exact Tree.uid_mem_uids s.tree
  · show t.uid ∈ s.tree.uids
    rw [← Tree.contains_iff, Tree.contains, Tree.find?_uid found, found]
    rfl

/-! ## Updates -/

theorem update_selected (s : Store) (t : Tree) : (s.update t).1.selected = s.selected := by
  rcases s.update_cases t with ⟨-, m, -, eq⟩ | ⟨-, p, -, -, eq⟩ | ⟨-, eq⟩ <;> rw [eq] <;> rfl

/-- A root without a uid takes that of the update. -/
theorem update_uids_of_adopts {s : Store} {t : Tree} (adopts : s.RootAdopts t.resource) :
    (s.update t).1.tree.uids = t.uid :: (Tree.resourcesList s.tree.children).map (·.uid) := by
  obtain ⟨nameless, -, root⟩ := adopts
  rw [update, if_pos root]
  show (mergeRoot t.resource s.tree).uids = _
  rw [mergeRoot_uids, if_pos nameless]
  rfl

/-- Any other update leaves the uids. -/
theorem update_uids_of_not_adopts {s : Store} {t : Tree} (keeps : ¬ s.RootAdopts t.resource) :
    (s.update t).1.tree.uids = s.tree.uids := by
  rcases s.update_cases t with ⟨-, m, -, eq⟩ | ⟨-, p, parent, -, eq⟩ | ⟨root, eq⟩
  · rw [eq]
  · rw [eq, merged_uids parent]
  · rw [eq]
    show (mergeRoot t.resource s.tree).uids = s.tree.uids
    rw [mergeRoot_uids, Tree.uids_eq_cons]
    congr 1
    split
    · next nameless =>
      have blank : t.resource.uid = "" := by
        apply Classical.byContradiction
        intro named
        exact keeps ⟨nameless, named, root⟩
      rw [blank, nameless]
    · rfl

/-- Which updates leave a selection without a node. -/
theorem update_resolves_iff {s : Store} (resolves : s.SelectionResolves) (t : Tree) :
    (s.update t).1.SelectionResolves ↔ ¬ s.Strands t := by
  by_cases adopts : s.RootAdopts t.resource
  · rw [selectionResolves_iff, update_selected, update_uids_of_adopts adopts, Strands]
    rw [selectionResolves_iff, Tree.uids_eq_cons, adopts.1] at resolves
    constructor
    · rintro there ⟨-, chosen, lone⟩
      rcases List.mem_cons.1 (there "" chosen) with blank | below
      · exact adopts.2.1 blank.symm
      · exact lone below
    · intro kept uid chosen
      refine List.mem_cons_of_mem _ ?_
      rcases List.mem_cons.1 (resolves uid chosen) with rfl | below
      · exact Classical.byContradiction fun lone => kept ⟨adopts, chosen, lone⟩
      · exact below
  · refine iff_of_true ?_ fun strands => adopts strands.1
    refine resolves.mono (s.update_selected t) fun uid member => ?_
    rwa [update_uids_of_not_adopts adopts]

/-- Which updates move the selection to another node. -/
theorem update_selectedPlace_iff (s : Store) (t : Tree) :
    (s.update t).1.selectedPlace? = s.selectedPlace? ↔ ¬ s.Detaches t := by
  by_cases adopts : s.RootAdopts t.resource
  · have named : t.uid ≠ "" := adopts.2.1
    rw [selectedPlace?, selectedPlace?, update_selected, update_uids_of_adopts adopts,
      Tree.uids_eq_cons s.tree, adopts.1, Detaches]
    generalize (Tree.resourcesList s.tree.children).map (·.uid) = below
    cases s.selected with
    | none => simp
    | some uid =>
      simp only [Option.bind_some, List.idxOf?_cons, beq_iff_eq, adopts, true_and,
        Option.some.injEq]
      by_cases root : uid = ""
      · -- the root was at place zero, and what is at a place below it is none or later
        subst root
        simp [named]
      · by_cases taken : uid = t.uid
        · subst taken
          cases below.idxOf? t.uid <;> simp [named.symm]
        · simp [root, taken, Ne.symm root, Ne.symm taken]
  · refine iff_of_true ?_ fun detaches => adopts detaches.1
    rw [selectedPlace?, selectedPlace?, update_selected, update_uids_of_not_adopts adopts]

/-- An update that leaves a selection without a node detaches it. -/
theorem Strands.detaches {s : Store} {t : Tree} (strands : s.Strands t) : s.Detaches t :=
  ⟨strands.1, .inl strands.2.1⟩

/-! ## All operations -/

theorem add_resolves {s : Store} (resolves : s.SelectionResolves) (t : Tree) :
    (s.add t).1.SelectionResolves := by
  rcases s.add_cases t with ⟨-, m, -, eq⟩ | ⟨-, p, parent, -, eq⟩ | ⟨-, p, parent, eq⟩
  · rw [eq]
    exact resolves
  · rw [eq]
    refine resolves.mono rfl fun uid member => ?_
    rwa [merged_uids parent]
  · rw [eq]
    refine resolves.mono rfl fun uid member => ?_
    rw [(attached_uids_perm parent t).mem_iff]
    exact List.mem_append_right _ member

/-- A removal leaves no selection that is gone. -/
theorem remove_resolves {s : Store} (resolves : s.SelectionResolves) (uid : String)
    (parentId : Option String) : (s.remove uid parentId).1.SelectionResolves := by
  rcases s.remove_cases uid parentId with ⟨m, -, eq⟩ | ⟨p, -, -, eq⟩
  · rw [eq]
    exact resolves
  · rw [eq]
    exact dropStaleSelection_resolves _

/-- After an operation that leaves the nodes where they are, the selection resolves. -/
theorem perform_resolves_of_isLocal {s : Store} (resolves : s.SelectionResolves) {o : Operation}
    (here : o.isLocal = true) : (s.perform o).SelectionResolves := by
  have uids := s.perform_uids here
  cases o with
  | replaceTree t => cases here
  | delta d => cases here
  | setFlags uid reconciling suspended =>
    refine resolves.mono ?_ fun uid member => uids ▸ member
    rw [perform, setFlags]
    split
    · rfl
    · split <;> rfl
  | appendLog uid line =>
    refine resolves.mono ?_ fun uid member => uids ▸ member
    rw [perform, appendLog?]
    split <;> rfl
  | select uid =>
    rw [perform]
    cases chosen : s.select? uid with
    | none => exact resolves
    | some s' => exact select_resolves chosen
  | clearSelection =>
    intro uid chosen
    cases chosen
  | derivedViews =>
    refine resolves.mono ?_ fun uid member => uids ▸ member
    rw [perform, derivedViews]
    split <;> rfl

/-- No operation but one strands the selection: an update that gives the root a uid. -/
theorem perform_resolves_iff {s : Store} (resolves : s.SelectionResolves) (o : Operation) :
    (s.perform o).SelectionResolves ↔ ∀ t, o = .delta (.update t) → ¬ s.Strands t := by
  cases o with
  | replaceTree t =>
    exact iff_of_true (dropStaleSelection_resolves _) fun _ update => by cases update
  | delta d =>
    cases d with
    | add t => exact iff_of_true (add_resolves resolves t) fun _ update => by cases update
    | update t =>
      rw [perform, apply, update_resolves_iff resolves]
      exact ⟨fun kept _ update => by cases update; exact kept, fun kept => kept t rfl⟩
    | remove uid parentId =>
      exact iff_of_true (remove_resolves resolves uid parentId) fun _ update => by cases update
  | setFlags | appendLog | select | clearSelection | derivedViews =>
    exact iff_of_true (perform_resolves_of_isLocal resolves rfl) fun _ update => by cases update

/-- No operation but that one detaches the selection from its node. -/
theorem keepsSelection_iff {s : Store} (resolves : s.SelectionResolves) (o : Operation) :
    s.KeepsSelection o ↔ ∀ t, o = .delta (.update t) → ¬ s.Detaches t := by
  rw [KeepsSelection, perform_resolves_iff resolves]
  constructor
  · rintro ⟨-, place⟩ t rfl
    exact (s.update_selectedPlace_iff t).1 (place t rfl)
  · intro attached
    refine ⟨fun t update strands => attached t update strands.detaches, ?_⟩
    rintro t rfl
    exact (s.update_selectedPlace_iff t).2 (attached t rfl)

theorem selectionResolves_empty (ns : String) (buffer : Nat) :
    (empty ns buffer).SelectionResolves := by
  intro uid chosen
  cases chosen

/-- Along a history of a fresh store the selection always resolves, and no update moves it to
another node, if and only if no update gives its uid to a root without uid while the empty uid or
that uid is selected. It always resolves if and only if none does so while the root is selected and
no other node is without uid. -/
theorem selection_kept_iff (ns : String) (buffer : Nat) (history : List Operation) :
    (Along perform KeepsSelection (empty ns buffer) history ↔
      Along perform (fun s o => ∀ t, o = .delta (.update t) → ¬ s.Detaches t) (empty ns buffer)
        history) ∧
    (Along perform (fun s o => (s.perform o).SelectionResolves) (empty ns buffer) history ↔
      Along perform (fun s o => ∀ t, o = .delta (.update t) → ¬ s.Strands t) (empty ns buffer)
        history) := by
  have start := selectionResolves_empty ns buffer
  constructor
  · exact along_iff_along start (fun s o resolves => keepsSelection_iff resolves o)
      (fun s o _ kept => kept.1) history
  · exact along_iff_along start (fun s o resolves => perform_resolves_iff resolves o)
      (fun s o _ kept => kept) history

/-- The record of the application at the root. -/
def rootRecord : Wire.Node :=
  .node
    { uid := "root", name := "flux-system", kind := "Kustomization", ns := some "flux-system"
      createdAt := "2025-01-01T00:00:00Z" }
    []

/-- The root is selected before the first snapshot, an update that decodes gives it its uid, and the
selection leads nowhere. -/
theorem selection_stranded_by_update :
    (Decode.node rootRecord).map (fun t =>
      let s := (empty "flux-system" 10).run [.select "", .delta (.update t)]
      (s.selected, s.selectedNode?.isSome)) = .ok (some "", false) := by
  decide +kernel

end ResourceTree.Store
