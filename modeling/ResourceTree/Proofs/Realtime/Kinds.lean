import ResourceTree.Proofs.Action.Rollback
import ResourceTree.Proofs.Realtime.Everywhere
import ResourceTree.Proofs.Resource.Kind

/-!
# Kinds and metadata agree

The kind of a resource is a text, and its metadata is one of several variants. Which kinds have a
variant of their own is settled by the decoder, which kinds have a reconcile state by the variants, and
which kinds can be reconciled by the kinds themselves. `kindsAgree_run` says that these three never
fall apart, since whatever gives a resource another kind gives it the metadata of that kind too.
-/

namespace ResourceTree
set_option autoImplicit false

/-- The kinds with a metadata variant of their own, in the order of the decoder. -/
def Kind.withMetadata : List Kind :=
  [kustomization, helmRelease, helmChart, helmRepository, gitRepository, ociRepository, deployment,
    pod, persistentVolumeClaim]

/-- The kind of a name, if it has a metadata variant of its own. -/
theorem Kind.find?_withMetadata (s : String) :
    withMetadata.find? (·.name = s) = (ofName? s).filter (· ∈ withMetadata) := by
  cases known : ofName? s with
  | none =>
    rw [Option.filter_none, List.find?_eq_none]
    intro k _ same
    exact absurd (ofName?_eq_some_iff.2 (of_decide_eq_true same)) (by simp [known])
  | some k =>
    obtain rfl := name_of_ofName? known
    cases k <;> decide

namespace Metadata

/-- The kind that a variant is for. -/
def kind? : Metadata → Option Kind
  | kustomization _ _ => some .kustomization
  | helmRelease _ _ => some .helmRelease
  | helmChart _ => some .helmChart
  | helmRepository _ => some .helmRepository
  | gitRepository _ _ => some .gitRepository
  | ociRepository _ _ => some .ociRepository
  | deployment _ => some .deployment
  | pod _ => some .pod
  | persistentVolumeClaim _ => some .persistentVolumeClaim
  | generic => none

theorem kind?_withFlux (m : Metadata) (flux : Flux) : (m.withFlux flux).kind? = m.kind? := by
  cases m <;> rfl

/-- The variants with a reconcile state are those of the kinds that can be reconciled. -/
theorem isSome_flux? (m : Metadata) : m.flux?.isSome = m.kind?.any Kind.isReconcilable := by
  cases m <;> rfl

end Metadata

namespace Resource

/-- The metadata of a resource is of the variant that its kind selects. -/
def Fitting (r : Resource) : Prop :=
  r.metadata.kind? = Kind.withMetadata.find? (·.name = r.kind)

theorem fitting_placeholder : placeholder.Fitting := by
  unfold Fitting
  decide

/-- Nothing changes the kind of a resource without its metadata. -/
theorem stable_fitting (buffer : Nat) : Stable buffer Fitting where
  merge _ brought := brought
  named _ fitting := fitting
  unparented fitting := fitting
  withFlux flux fitting := (Metadata.kind?_withFlux _ flux).trans fitting
  prependLog _ fitting := fitting

/-- A resource that fits has a reconcile state if it is of a kind that can be reconciled. -/
theorem Fitting.isReconcilable_eq {r : Resource} (fitting : r.Fitting) :
    r.isReconcilable = r.isOfKind Kind.isReconcilable := by
  rw [isReconcilable, Metadata.isSome_flux?, fitting, Kind.find?_withMetadata, isOfKind, kind?]
  cases Kind.ofName? r.kind with
  | none => rfl
  | some k => cases k <;> rfl

end Resource

namespace Decode

theorem metadata_kind? {w : Wire.Record} {m : Metadata} (h : metadata w = .ok m) :
    m.kind? = Kind.withMetadata.find? (·.name = w.kind) := by
  rw [Kind.find?_withMetadata]
  unfold metadata at h
  cases known : Kind.ofName? w.kind with
  | none =>
    rw [known] at h
    cases h
    rfl
  | some k =>
    rw [known] at h
    cases k with
    | kustomization | helmRelease | helmChart | helmRepository | gitRepository | ociRepository =>
      obtain ⟨state, -, rfl⟩ := map_eq_ok.1 h
      rfl
    | deployment | pod | persistentVolumeClaim | bucket | clusterRole | clusterRoleBinding
    | customResourceDefinition =>
      cases h
      rfl

theorem yields_fitting : Yields Resource.Fitting := by
  intro w parentId h conditions events read
  obtain ⟨m, decoded, read⟩ := bind_eq_ok.1 read
  obtain ⟨status, -, read⟩ := bind_eq_ok.1 read
  obtain ⟨createdAt, -, read⟩ := bind_eq_ok.1 read
  obtain ⟨deletedAt, -, read⟩ := bind_eq_ok.1 read
  cases pure_eq_ok.1 read
  exact metadata_kind? decoded

end Decode

namespace Store

variable {s : Store} {uid : String} {t : Tree}

theorem beginAction_eq_ok_iff (resolved : s.tree.resolve? uid = some t) (action : Action) :
    (∃ begun, s.beginAction action uid = .ok begun) ↔ t.resource.isReconcilable = true := by
  rw [beginAction]
  rcases s.startAction_cases action uid with ⟨unmanaged, e, eq⟩ | ⟨u, _, found, managed, -, eq⟩
  · rw [eq, unmanaged t resolved]
    exact iff_of_false (fun ⟨_, begun⟩ => by cases begun) Bool.false_ne_true
  · cases resolved.symm.trans found
    rw [eq]
    exact iff_of_true ⟨_, rfl⟩ managed

/-- An action at a node without reconcile state is refused, and the refusal names the node. -/
theorem beginAction_unmanaged (resolved : s.tree.resolve? uid = some t)
    (unmanaged : t.resource.isReconcilable = false) (action : Action) :
    s.beginAction action uid = .error (.notReconcilable t.uid t.resource.kind) := by
  rw [beginAction, startAction, resolved]
  simp only [unmanaged, Bool.not_false, if_true]

/-- What the kinds of a store's resources say holds of the resources themselves: of their metadata, of
whether they can be reconciled, and of the actions that they take. -/
structure KindsAgree (s : Store) : Prop where
  variant : ∀ n ∈ s.tree.resources,
    n.metadata.kind? = Kind.withMetadata.find? (·.name = n.kind)
  reconcilable : ∀ n ∈ s.tree.resources,
    n.isReconcilable = true ↔ ∃ k, Kind.ofName? n.kind = some k ∧ k.isReconcilable = true
  begins : ∀ action uid t, s.tree.resolve? uid = some t →
    ((∃ begun, s.beginAction action uid = .ok begun) ↔
      ∃ k, Kind.ofName? t.resource.kind = some k ∧ k.isReconcilable = true)
  refuses : ∀ action uid t, s.tree.resolve? uid = some t →
    (¬ ∃ k, Kind.ofName? t.resource.kind = some k ∧ k.isReconcilable = true) →
      s.beginAction action uid = .error (.notReconcilable t.uid t.resource.kind)

theorem kindsAgree_of_fitting (fitting : s.tree.Everywhere Resource.Fitting) : s.KindsAgree := by
  have reconcilable : ∀ n ∈ s.tree.resources,
      n.isReconcilable = true ↔ ∃ k, Kind.ofName? n.kind = some k ∧ k.isReconcilable = true := by
    intro n member
    rw [(fitting n member).isReconcilable_eq, Resource.isOfKind, Resource.kind?, Option.any_eq_true]
  have found : ∀ {uid t}, s.tree.resolve? uid = some t → t.resource ∈ s.tree.resources := by
    intro uid t resolved
    exact List.mem_map_of_mem (Tree.find?_mem_subtrees (Tree.find?_of_resolve? resolved))
  refine ⟨fitting, reconcilable, fun action uid t resolved => ?_,
    fun action uid t resolved other => ?_⟩
  · rw [beginAction_eq_ok_iff resolved, reconcilable _ (found resolved)]
  · rw [← reconcilable _ (found resolved), Bool.not_eq_true] at other
    exact beginAction_unmanaged resolved other action

end Store

namespace Router

/-- Whatever a router takes in, kinds and metadata agree in its store at every stage. -/
theorem kindsAgree_run (ns : String) (buffer : Nat) (events : EventLog) (signals : List Signal) :
    ((start (.empty ns buffer) events).run signals).store.KindsAgree := by
  have holds := run_empty_holds (Resource.stable_fitting buffer) Decode.yields_fitting
    Resource.fitting_placeholder ns events signals
  exact Store.kindsAgree_of_fitting holds.everywhere

/-- A snapshot with a bucket below its root, and an update by which the bucket becomes a chart. -/
def rekinded : List Signal :=
  [.frame (frameText "tree" (recordText "r"
      (",\"children\":[" ++ recordText "a" ",\"kind\":\"Bucket\"" ++ "]"))),
    .frame (frameText "resource_update" (recordText "a"
      ",\"kind\":\"HelmChart\",\"parentIDs\":[\"r\"]"))]

example :
    let s := fun stage => ((start (.empty "flux-system" 10) (.empty 10)).run stage).store
    ((s (rekinded.take 1)).beginAction .suspend "a").toOption.isSome = false ∧
      ((s rekinded).beginAction .suspend "a").toOption.isSome = true := by
  decide +kernel

end Router

end ResourceTree
