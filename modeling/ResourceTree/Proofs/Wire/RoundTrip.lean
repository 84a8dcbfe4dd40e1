import Mathlib.Control.Monad.Basic
import ResourceTree.Proofs.Tree.Equality
import ResourceTree.Proofs.Tree.Lookup
import ResourceTree.Proofs.Wire.Parts

/-!
# Trees read back from their records

A tree that was decoded is what its own record is decoded to, at every depth, as long as the years
of its instants have four digits.
-/

namespace ResourceTree
set_option autoImplicit false

/-- All instants in a tree. -/
def Tree.instants (t : Tree) : List Instant := t.resources.flatMap Resource.instants

namespace Decode

/-- Parts that are each decoded again are decoded again together. -/
theorem mapM_encode {α β ε : Type} {decode : β → Except ε α} {encode : α → β} {ws : List β}
    {xs : List α} (h : ws.mapM decode = .ok xs)
    (back : ∀ w, ∀ x ∈ xs, decode w = .ok x → decode (encode x) = .ok x) :
    (xs.map encode).mapM decode = .ok xs := by
  induction ws generalizing xs with
  | nil =>
    cases pure_eq_ok.1 h
    rfl
  | cons w ws ih =>
    rw [List.mapM_cons] at h
    obtain ⟨x, here, h⟩ := bind_eq_ok.1 h
    obtain ⟨rest, there, h⟩ := bind_eq_ok.1 h
    cases pure_eq_ok.1 h
    rw [List.map_cons, List.mapM_cons]
    refine bind_eq_ok.2 ⟨x, back w x List.mem_cons_self here, bind_eq_ok.2 ⟨rest, ?_, rfl⟩⟩
    exact ih there fun w x member => back w x (List.mem_cons_of_mem _ member)

variable {w : Wire.Record} {parentId : Option String} {hd : Head} {conditions : List Condition}
  {events : List Event}

/-- What is read from the fields of a record is read again from those of its resource. -/
theorem head_encode (h : head w = .ok hd)
    (years : ∀ i ∈ (resource w parentId hd conditions events).instants, i.FourDigits) :
    head (Encode.record (resource w parentId hd conditions events)) = .ok hd := by
  obtain ⟨m, readMetadata, h⟩ := bind_eq_ok.1 h
  obtain ⟨s, -, h⟩ := bind_eq_ok.1 h
  obtain ⟨created, readCreated, h⟩ := bind_eq_ok.1 h
  obtain ⟨deleted, readDeleted, h⟩ := bind_eq_ok.1 h
  cases pure_eq_ok.1 h
  have createdYears : created.FourDigits := years created (Resource.mem_instants.2 (.inl rfl))
  have deletedYears : ∀ i ∈ deleted, i.FourDigits := fun i member =>
    years i (Resource.mem_instants.2 (.inr (.inl member)))
  have metadataYears : ∀ i ∈ m.instants, i.FourDigits := fun i member =>
    years i (Resource.mem_instants.2 (.inr (.inr (.inl member))))
  have status := withMetadata_unseen (·.status) (fun _ _ _ _ _ _ _ _ => rfl)
  have createdAt := withMetadata_unseen (·.createdAt) (fun _ _ _ _ _ _ _ _ => rfl)
  have deletedAt := withMetadata_unseen (·.deletedAt) (fun _ _ _ _ _ _ _ _ => rfl)
  refine bind_eq_ok.2 ⟨m, metadata_encode readMetadata rfl rfl metadataYears, ?_⟩
  rw [Encode.record, status, createdAt, deletedAt]
  refine bind_eq_ok.2 ⟨s, status_name s, ?_⟩
  refine bind_eq_ok.2 ⟨created, time_toText readCreated createdYears _, ?_⟩
  exact bind_eq_ok.2 ⟨deleted, optionalTime_toText readDeleted deletedYears _, rfl⟩

/-- A record of a resource gives the resource back. -/
theorem resource_encode :
    resource (Encode.record (resource w parentId hd conditions events)) parentId hd conditions
      events = resource w parentId hd conditions events := by
  rw [Encode.record, withMetadata_unseen (fun w => resource w parentId hd conditions events)
    (fun _ _ _ _ _ _ _ _ => rfl)]
  simp only [resource, nonEmpty_nonEmpty]

mutual

/-- A decoded tree is encoded into a record that is decoded as it, below the same parent. -/
theorem under_encode {parentId : Option String} {w : Wire.Node} {t : Tree}
    (h : under parentId w = .ok t) (years : ∀ i ∈ t.instants, i.FourDigits) :
    under parentId (Encode.node t) = .ok t := by
  cases w with
  | node w cs =>
    obtain ⟨hd, readHead, h⟩ := bind_eq_ok.1 h
    obtain ⟨children, readChildren, h⟩ := bind_eq_ok.1 h
    obtain ⟨conditions, readConditions, h⟩ := bind_eq_ok.1 h
    obtain ⟨events, readEvents, h⟩ := bind_eq_ok.1 h
    cases pure_eq_ok.1 h
    have own : ∀ i ∈ (resource w parentId hd conditions events).instants, i.FourDigits :=
      fun i member => years i (by simp [Tree.instants, member])
    have below : ∀ i ∈ (Tree.resourcesList children).flatMap Resource.instants, i.FourDigits := by
      intro i member
      refine years i ?_
      rw [Tree.instants, Tree.resources_node, List.flatMap_cons]
      exact List.mem_append_right _ member
    refine bind_eq_ok.2 ⟨hd, head_encode readHead own, bind_eq_ok.2 ⟨children, ?_,
      bind_eq_ok.2 ⟨conditions, ?_, bind_eq_ok.2 ⟨events, ?_, ?_⟩⟩⟩⟩
    · rw [Encode.record, withMetadata_unseen (·.uid) fun _ _ _ _ _ _ _ _ => rfl]
      exact underAll_encode readChildren below
    · rw [Encode.record, withMetadata_unseen (·.conditions) fun _ _ _ _ _ _ _ _ => rfl]
      exact mapM_encode readConditions fun _ c member read => condition_encode read
        (own _ (Resource.mem_instants.2 (.inr (.inr (.inr (.inl ⟨c, member, rfl⟩))))))
    · rw [Encode.record, withMetadata_unseen (·.events) fun _ _ _ _ _ _ _ _ => rfl]
      exact mapM_encode readEvents fun _ e member read => event_encode read fun i inside =>
        own i (Resource.mem_instants.2 (.inr (.inr (.inr (.inr (.inl ⟨e, member, inside⟩))))))
    · rw [resource_encode]
      rfl

theorem underAll_encode {parentId : Option String} {ws : List Wire.Node} {ts : List Tree}
    (h : underAll parentId ws = .ok ts)
    (years : ∀ i ∈ (Tree.resourcesList ts).flatMap Resource.instants, i.FourDigits) :
    underAll parentId (Encode.nodes ts) = .ok ts := by
  cases ws with
  | nil =>
    cases h
    rfl
  | cons w ws =>
    obtain ⟨t, here, h⟩ := bind_eq_ok.1 h
    obtain ⟨rest, there, h⟩ := bind_eq_ok.1 h
    cases pure_eq_ok.1 h
    rw [Tree.resourcesList_cons, List.flatMap_append] at years
    refine bind_eq_ok.2 ⟨t, under_encode here ?_, bind_eq_ok.2 ⟨rest, underAll_encode there ?_, rfl⟩⟩
    · exact fun i member => years i (List.mem_append_left _ member)
    · exact fun i member => years i (List.mem_append_right _ member)

end

/-- The parent that was chosen is chosen again where there is no list. -/
theorem parentOf_parentOf (parentId : Option String) (parentIds : List String) :
    Wire.parentOf (Wire.parentOf parentId parentIds) [] = Wire.parentOf parentId parentIds := by
  simp [Wire.parentOf, Option.filter_filter]

/-- A decoded tree has the parent it was decoded below. -/
theorem under_parent {parentId : Option String} {w : Wire.Node} {t : Tree}
    (h : under parentId w = .ok t) : t.resource.parentId = parentId := by
  cases w with
  | node w cs =>
    obtain ⟨_, -, h⟩ := bind_eq_ok.1 h
    obtain ⟨_, -, h⟩ := bind_eq_ok.1 h
    obtain ⟨_, -, h⟩ := bind_eq_ok.1 h
    obtain ⟨_, -, h⟩ := bind_eq_ok.1 h
    cases pure_eq_ok.1 h
    rfl

/-- A decoded tree is what its own record is decoded to. -/
theorem node_encode {w : Wire.Node} {t : Tree} (h : node w = .ok t)
    (years : ∀ i ∈ t.instants, i.FourDigits) : node (Encode.node t) = .ok t := by
  have parent : (Encode.node t).parent = w.parent := by
    have named := under_parent h
    cases t with
    | node r cs =>
      show (Encode.record r).parent = w.parent
      rw [Encode.record, withMetadata_unseen (·.parent) fun _ _ _ _ _ _ _ _ => rfl]
      show Wire.parentOf r.parentId [] = w.parent
      rw [show r.parentId = w.parent from named]
      exact parentOf_parentOf _ _
  rw [node, parent]
  exact under_encode h years

/-- An application with a pod, its times in several notations and a parent in the list only. -/
def application : Wire.Node :=
  .node
    { uid := "app", name := "app", kind := "Kustomization", parentIds := ["root"]
      createdAt := "2025-01-31T23:30:00.5-01:00", deletedAt := some "0001-01-01T00:00:00Z"
      flux := some { isSuspended := true, lastSyncAt := some "2025-02-01 00:00:60z" }
      kustomization := some
        { sourceRef := some { kind := "GitRepository", name := "", ns := some "" } } }
    [.node { uid := "pod", kind := "Pod", createdAt := "2025-02-01T00:00:00Z" } []]

/-- What the application is decoded to. -/
def applicationTree : Tree :=
  .node
    { Resource.placeholder with
      uid := "app", name := "app", kind := "Kustomization", parentId := some "root"
      createdAt := { year := 2025, month := 2, day := 1, second := 1800, nanos := 500000000 }
      metadata := .kustomization
        { isSuspended := true
          lastSyncAt := some { year := 2025, month := 2, day := 1, second := 59, nanos := 1000000000 } }
        { path := "", sourceRef := some { kind := "GitRepository", name := "", ns := none }
          lastAppliedRevision := "", lastAttemptedRevision := "", dependsOn := [] } }
    [.node
      { Resource.placeholder with
        uid := "pod", kind := "Pod", parentId := some "app"
        createdAt := { year := 2025, month := 2, day := 1, second := 0, nanos := 0 }
        metadata := .pod { phase := "", image := "" } }
      []]

/-- An application with workloads and a missing node below it, decoded, encoded and decoded again. -/
theorem node_encode_application :
    node application = .ok applicationTree ∧ (∀ i ∈ applicationTree.instants, i.FourDigits) ∧
      node (Encode.node applicationTree) = .ok applicationTree := by
  have decoded : node application = .ok applicationTree := by decide +kernel
  have years : ∀ i ∈ applicationTree.instants, i.FourDigits := by decide
  exact ⟨decoded, years, node_encode decoded years⟩

end Decode

end ResourceTree
