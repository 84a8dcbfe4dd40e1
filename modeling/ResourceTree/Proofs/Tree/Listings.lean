import ResourceTree.Proofs.Resource.Kind
import ResourceTree.Proofs.Tree.Logs
import ResourceTree.Proofs.Tree.Steps

/-!
# Listings are never stale

A listing holds the resources of some kinds, tombstones left out, in the order of their names and
for one name in tree order. The listings that a store keeps carry the version that they belong to.
`ViewsSound` is what makes that enough: listings of the current version are those of the current
tree. Every operation keeps it, since one that leaves the version alone changes at most log lines
and the selection, of which a row shows nothing.
-/

namespace ResourceTree
set_option autoImplicit false

/-- The given elements in the order of their names, those of one name in the order given. -/
structure NameSorted {α : Type} (name : α → String) (given sorted : List α) : Prop where
  perm : sorted.Perm given
  ordered : sorted.Pairwise fun a b => name a ≤ name b
  stable : ∀ n, (sorted.filter fun a => name a = n) = given.filter fun a => name a = n

section NameSorted

variable {α : Type} (name : α → String)

/-- The sort by name keeps each entry, and the order of those that share a name. -/
theorem nameSorted_mergeSort (given : List α) :
    NameSorted name given (given.mergeSort fun a b => name a ≤ name b) := by
  have trans : ∀ a b c : α, decide (name a ≤ name b) = true → decide (name b ≤ name c) = true →
      decide (name a ≤ name c) = true := by
    intro a b c ab bc
    simp only [decide_eq_true_eq] at ab bc ⊢
    exact String.le_trans ab bc
  have total : ∀ a b : α, (decide (name a ≤ name b) || decide (name b ≤ name a)) = true := by
    intro a b
    simpa using String.le_total (name a) (name b)
  have perm := List.mergeSort_perm given fun a b => decide (name a ≤ name b)
  refine ⟨perm, ?_, fun n => ?_⟩
  · have ordered := List.pairwise_mergeSort trans total given
    simpa using ordered
  · -- elements of one name are in order as they stand, so sorting keeps them as a sublist
    have level : (given.filter fun a => name a = n).Pairwise
        fun a b => decide (name a ≤ name b) = true := by
      refine List.pairwise_of_forall_mem_list fun a ha b hb => ?_
      have eqa := (List.mem_filter.1 ha).2
      have eqb := (List.mem_filter.1 hb).2
      simp only [decide_eq_true_eq] at eqa eqb ⊢
      have same : name a = name b := eqa.trans eqb.symm
      exact same ▸ String.le_refl (name a)
    have within := (List.sublist_mergeSort trans total level List.filter_sublist).filter
      fun a => decide (name a = n)
    rw [List.filter_filter] at within
    simp only [Bool.and_self] at within
    exact (within.eq_of_length (perm.filter _).length_eq.symm).symm

/-- What is sorted by name is sorted by name already. -/
theorem mergeSort_name_idem (given : List α) :
    (given.mergeSort fun a b => name a ≤ name b).mergeSort (fun a b => name a ≤ name b) =
      given.mergeSort fun a b => name a ≤ name b := by
  refine List.mergeSort_of_pairwise ?_
  simpa using (nameSorted_mergeSort name given).ordered

/-- A change that keeps the names may come before the sort or after it. -/
theorem map_mergeSort_name {β : Type} (name' : β → String) (f : α → β)
    (same : ∀ a, name' (f a) = name a) (given : List α) :
    (given.mergeSort fun a b => name a ≤ name b).map f =
      (given.map f).mergeSort fun a b => name' a ≤ name' b :=
  List.map_mergeSort fun a _ b _ => by simp only [same]

end NameSorted
/-! ## What a listing holds -/

/-- A resource that is listed under one of the given kinds. -/
def Resource.ListedAs (kinds : List String) (r : Resource) : Prop :=
  r.deletedAt = none ∧ r.kind ∈ kinds

instance (kinds : List String) (r : Resource) : Decidable (r.ListedAs kinds) :=
  inferInstanceAs (Decidable (r.deletedAt = none ∧ r.kind ∈ kinds))

def applicationKinds : List String := ["Kustomization", "HelmRelease", "HelmChart"]

def repositoryKinds : List String :=
  ["GitRepository", "OCIRepository", "HelmRepository", "Bucket"]

namespace Tree

/-- A listing by kind is a filter of the nodes in tree order. -/
theorem ofKind_eq_filter {p : Kind → Bool} {kinds : List String}
    (named : ∀ k : Kind, p k = true ↔ k.name ∈ kinds)
    (all : ∀ s ∈ kinds, ∃ k : Kind, k.name = s) (t : Tree) :
    t.ofKind p = t.resources.filter fun r => r.ListedAs kinds := by
  refine List.filter_congr fun r _ => ?_
  have kind : r.isOfKind p = true ↔ r.kind ∈ kinds := by
    rw [Kind.isOfKind_iff]
    constructor
    · rintro ⟨k, holds, eq⟩
      exact eq ▸ (named k).1 holds
    · intro member
      obtain ⟨k, eq⟩ := all _ member
      exact ⟨k, (named k).2 (eq ▸ member), eq⟩
  rw [Bool.eq_iff_iff, Bool.and_eq_true, kind, decide_eq_true_eq, Resource.ListedAs,
    Resource.isTombstone]
  simp

/-- The applications are the nodes with one of the three kinds of applications. -/
theorem applications_eq_filter (t : Tree) :
    t.applications = t.resources.filter fun r => r.ListedAs applicationKinds := by
  refine ofKind_eq_filter (fun k => ?_) ?_ t
  · cases k <;> decide
  · simp only [applicationKinds, List.forall_mem_cons]
    exact ⟨⟨.kustomization, rfl⟩, ⟨.helmRelease, rfl⟩, ⟨.helmChart, rfl⟩, by simp⟩

/-- The repositories are the nodes with one of the kinds of sources. -/
theorem repositories_eq_filter (t : Tree) :
    t.repositories = t.resources.filter fun r => r.ListedAs repositoryKinds := by
  refine ofKind_eq_filter (fun k => ?_) ?_ t
  · cases k <;> decide
  · simp only [repositoryKinds, List.forall_mem_cons]
    exact ⟨⟨.gitRepository, rfl⟩, ⟨.ociRepository, rfl⟩, ⟨.helmRepository, rfl⟩, ⟨.bucket, rfl⟩,
      by simp⟩

end Tree

namespace Row

/-- Rows of sorted nodes are sorted rows. -/
theorem byName_map_ofResource (rs : List Resource) :
    byName (rs.map ofResource) = (Tree.byName rs).map ofResource :=
  (map_mergeSort_name Resource.name Row.name ofResource (fun _ => rfl) rs).symm

theorem byName_byName (rows : List Row) : byName (byName rows) = byName rows :=
  mergeSort_name_idem Row.name rows

end Row

namespace Tree

/-- The rows of a listing by kind do not show log lines. -/
theorem rows_ofKind_eraseLogs (p : Kind → Bool) (t : Tree) :
    (t.eraseLogs.ofKind p).map Row.ofResource = (t.ofKind p).map Row.ofResource := by
  simp only [ofKind, eraseLogs, resources_map, List.filter_map, List.map_map]
  rfl

/-- Log lines do not show in the rows of the controllers. -/
theorem rows_controllers_eraseLogs (ns : String) (t : Tree) :
    (t.eraseLogs.controllers ns).map Row.ofResource = (t.controllers ns).map Row.ofResource := by
  simp only [controllers, ← Row.byName_map_ofResource, eraseLogs, children_map, List.filter_map,
    List.map_map]
  rfl

end Tree

namespace Store

/-- Listings depend on a store through its version and its tree without log lines. -/
theorem freshViews_congr {s s' : Store} (version : s'.version = s.version)
    (ns : s'.fluxNamespace = s.fluxNamespace) (tree : s'.tree.eraseLogs = s.tree.eraseLogs) :
    s'.freshViews = s.freshViews := by
  have kinds : ∀ p, (s'.tree.ofKind p).map Row.ofResource = (s.tree.ofKind p).map Row.ofResource := by
    intro p
    rw [← Tree.rows_ofKind_eraseLogs, tree, Tree.rows_ofKind_eraseLogs]
  have below : s'.controllers.map Row.ofResource = s.controllers.map Row.ofResource := by
    rw [controllers, controllers, ← Tree.rows_controllers_eraseLogs, tree,
      Tree.rows_controllers_eraseLogs, ns]
  simp only [freshViews, Tree.applications, Tree.repositories, kinds, below, version]

/-! ## The listings that are kept -/

/-- Kept listings are of no later version, and those of the current version are up to date. -/
def ViewsSound (s : Store) : Prop :=
  ∀ v, s.views = some v → v.version ≤ s.version ∧ (v.version = s.version → v = s.freshViews)

/-- What an operation that is not asked for listings does to what they depend on. -/
inductive Keeps (s s' : Store) : Prop where
  | changed (views : s'.views = s.views) (version : s'.version = s.version + 1)
  | unchanged (views : s'.views = s.views) (version : s'.version = s.version)
      (ns : s'.fluxNamespace = s.fluxNamespace) (tree : s'.tree.eraseLogs = s.tree.eraseLogs)

theorem Keeps.refl (s : Store) : s.Keeps s := .unchanged rfl rfl rfl rfl

/-- Listings that were kept stay right as long as the version tells of every change. -/
theorem ViewsSound.keep {s s' : Store} (sound : s.ViewsSound) (keeps : s.Keeps s') :
    s'.ViewsSound := by
  intro v kept
  cases keeps with
  | changed views version =>
    have older := (sound v (views ▸ kept)).1
    exact ⟨by omega, fun eq => by omega⟩
  | unchanged views version ns tree =>
    obtain ⟨older, current⟩ := sound v (views ▸ kept)
    rw [version, freshViews_congr version ns tree]
    exact ⟨older, current⟩

/-- A changed tree has a version of its own. -/
theorem keeps_change (s : Store) (t : Tree) : s.Keeps (s.change t) := .changed rfl rfl

theorem keeps_replaceTree (s : Store) (t : Tree) : s.Keeps (s.replaceTree t) := by
  obtain ⟨selected, eq⟩ := dropStaleSelection_eq (s.change t)
  rw [replaceTree, eq]
  exact .changed rfl rfl

/-- A delta that is applied has a version of its own, and one that is not leaves the tree. -/
theorem keeps_apply (s : Store) (d : Delta) : s.Keeps (s.apply d).1 := by
  rcases s.apply_cases d with ⟨-, tree, selected, eq⟩ | ⟨-, eq⟩
  · rw [eq]; exact .changed rfl rfl
  · rw [eq]; exact .refl s

/-- The flags of an action give the tree a version of its own. -/
theorem keeps_setFlags (s : Store) (uid : String) (reconciling suspended : Option Bool) :
    s.Keeps (s.setFlags uid reconciling suspended).1 := by
  unfold setFlags
  split
  · exact .refl s
  · split
    · exact .refl s
    · exact keeps_change s _

/-- A log line gives no new version, and shows in no row. -/
theorem keeps_appendLog (s : Store) (uid : String) (line : LogLine) :
    s.Keeps ((s.appendLog? uid line).getD s) := by
  cases appended : s.appendLog? uid line with
  | none => exact .refl s
  | some s' =>
    obtain ⟨tree, eq, rfl⟩ := appendLog?_eq_some appended
    exact .unchanged rfl rfl rfl eq

theorem keeps_select (s : Store) (uid : String) : s.Keeps ((s.select? uid).getD s) := by
  unfold select?
  cases s.tree.resolve? uid with
  | none => exact .refl s
  | some t => exact .unchanged rfl rfl rfl rfl

/-- What is computed for the current version is right for it. -/
theorem ViewsSound.derivedViews {s : Store} (sound : s.ViewsSound) :
    s.derivedViews.1.ViewsSound := by
  unfold Store.derivedViews
  split
  · exact sound
  · intro v kept
    cases kept
    exact ⟨Nat.le_refl _, fun _ => rfl⟩

/-- Every operation keeps the listings right. -/
theorem ViewsSound.perform {s : Store} (sound : s.ViewsSound) (o : Operation) :
    (s.perform o).ViewsSound := by
  cases o with
  | replaceTree t => exact sound.keep (keeps_replaceTree s t)
  | delta d => exact sound.keep (keeps_apply s d)
  | setFlags uid reconciling suspended => exact sound.keep (keeps_setFlags s uid _ _)
  | appendLog uid line => exact sound.keep (keeps_appendLog s uid line)
  | select uid => exact sound.keep (keeps_select s uid)
  | clearSelection => exact sound.keep (.unchanged rfl rfl rfl rfl)
  | derivedViews => exact sound.derivedViews

/-- So does every history. -/
theorem ViewsSound.run {s : Store} (sound : s.ViewsSound) (history : List Operation) :
    (s.run history).ViewsSound := by
  induction history generalizing s with
  | nil => exact sound
  | cons o history ih => exact ih (sound.perform o)

theorem viewsSound_empty (ns : String) (buffer : Nat) : (empty ns buffer).ViewsSound := by
  intro v kept
  cases kept

/-- Listings that are right are those of the current tree, kept or computed anew. -/
theorem ViewsSound.derivedViews_eq {s : Store} (sound : s.ViewsSound) :
    s.derivedViews.2 = s.freshViews := by
  unfold Store.derivedViews
  split
  · next v cached =>
    obtain ⟨kept, current⟩ := Option.filter_eq_some_iff.1 cached
    exact (sound v kept).2 (of_decide_eq_true current)
  · rfl

/-- Whatever has been done to a store, the listings that it gives are of its version and of its
tree: the rows of the listed resources by name, in tree order where names agree; controllers are
deployments right below the root. -/
theorem derivedViews_run (ns : String) (buffer : Nat) (history : List Operation) :
    let s := (empty ns buffer).run history
    let v := s.derivedViews.2
    v = s.freshViews ∧ v.version = s.version ∧
      NameSorted Row.name
        ((s.tree.resources.filter fun r => r.ListedAs applicationKinds).map Row.ofResource)
        v.applications ∧
      NameSorted Row.name
        ((s.tree.resources.filter fun r => r.ListedAs repositoryKinds).map Row.ofResource)
        v.repositories ∧
      NameSorted Row.name
        (((s.tree.children.map Tree.resource).filter fun r =>
          r.kind = "Deployment" ∧ r.ns = some s.fluxNamespace).map Row.ofResource)
        v.controllers ∧
      v.applications = s.applications.map Row.ofResource ∧
      v.repositories = s.repositories.map Row.ofResource := by
  intro s v
  have fresh : v = s.freshViews := ((viewsSound_empty ns buffer).run history).derivedViews_eq
  refine ⟨fresh, by rw [fresh]; rfl, ?_, ?_, ?_, ?_, ?_⟩
  · rw [fresh, ← Tree.applications_eq_filter]
    exact nameSorted_mergeSort Row.name _
  · rw [fresh, ← Tree.repositories_eq_filter]
    exact nameSorted_mergeSort Row.name _
  · have rows : v.controllers = Row.byName (s.controllers.map Row.ofResource) := by rw [fresh]; rfl
    rw [rows, controllers, Tree.controllers, ← Row.byName_map_ofResource, Row.byName_byName]
    simp only [Bool.decide_and]
    exact nameSorted_mergeSort Row.name _
  · rw [fresh]
    exact Row.byName_map_ofResource s.tree.applications
  · rw [fresh]
    exact Row.byName_map_ofResource s.tree.repositories

end Store

end ResourceTree
