import Mathlib.Logic.Relation
import ResourceTree.Proofs.Tree.Canonical
import ResourceTree.Proofs.Tree.Occurrences
import ResourceTree.Proofs.Tree.Uniqueness

/-!
# The order of siblings

One tree is a reordering of another if it comes from it by permuting the children of nodes, one node
after the other and at any depth. Every tree is a reordering of its canonical form, so trees of one
canonical form are reorderings of each other. Where siblings have distinct uids a permutation leaves the
canonical form as it is, and `structurallyEqual_iff_reordered` says that structural equality is nothing
else. Reorderings keep every resource below the resources that it stands below.
-/

namespace ResourceTree.Tree
set_option autoImplicit false

/-- The children of one node in another order. -/
inductive Permuted : Tree → Tree → Prop where
  | here {r : Resource} {cs ds : List Tree} (perm : cs.Perm ds) : Permuted (node r cs) (node r ds)
  | deeper {r : Resource} {c d : Tree} (before after : List Tree) (inside : Permuted c d) :
      Permuted (node r (before ++ c :: after)) (node r (before ++ d :: after))

/-- The children of any number of nodes, at any depth, in another order. -/
def Reordered : Tree → Tree → Prop := Relation.ReflTransGen Permuted

/-- Nowhere do two children of one node have the same uid. -/
def DistinctSiblings (t : Tree) : Prop := ∀ u ∈ t.subtrees, (u.children.map uid).Nodup

instance (t : Tree) : Decidable t.DistinctSiblings :=
  inferInstanceAs (Decidable (∀ u ∈ t.subtrees, (u.children.map uid).Nodup))

/-- The resources of a tree, each with those that stand above it, the root first. -/
def lineages (t : Tree) : List (List Resource × Resource) :=
  t.occurrences.map fun o => (o.above, o.resource)

variable {t u v : Tree}

/-! ## Reorderings -/

theorem Permuted.symm (step : Permuted t u) : Permuted u t := by
  induction step with
  | here perm => exact .here perm.symm
  | deeper before after _ ih => exact .deeper before after ih

instance : Std.Symm Permuted := ⟨fun _ _ => Permuted.symm⟩

theorem Reordered.symm (reordered : Reordered t u) : Reordered u t :=
  Relation.ReflTransGen.stdSymm.symm _ _ reordered

theorem Reordered.trans (left : Reordered t u) (right : Reordered u v) : Reordered t v :=
  Relation.ReflTransGen.trans left right

/-- Reordering a child reorders the tree. -/
theorem Reordered.deeper (r : Resource) (before after : List Tree) (inside : Reordered t u) :
    Reordered (node r (before ++ t :: after)) (node r (before ++ u :: after)) :=
  Relation.ReflTransGen.lift (fun c => node r (before ++ c :: after))
    (fun _ _ step => Permuted.deeper before after step) _ _ inside

mutual

/-- The canonical form of a tree is a reordering of it. -/
theorem reordered_canonical (t : Tree) : Reordered t t.canonical := by
  cases t with
  | node r cs =>
    rw [canonical_node]
    have below : Reordered (node r cs) (node r (canonicalList cs)) :=
      reordered_canonicalList r [] cs
    have sorted : (canonicalList cs).Perm (arranged cs) := (List.mergeSort_perm _ _).symm
    exact below.trans (.single (.here sorted))

/-- Siblings become canonical one after the other, from left to right. -/
theorem reordered_canonicalList (r : Resource) (done ts : List Tree) :
    Reordered (node r (done ++ ts)) (node r (done ++ canonicalList ts)) := by
  cases ts with
  | nil => exact .refl
  | cons t ts =>
    have first := (reordered_canonical t).deeper r done ts
    have rest := reordered_canonicalList r (done ++ [t.canonical]) ts
    rw [← List.append_cons, ← List.append_cons] at rest
    rw [canonicalList]
    exact first.trans rest

end

/-- Trees of one canonical form are reorderings of each other. -/
theorem reordered_of_canonical (same : t.canonical = u.canonical) : Reordered t u := by
  have there := reordered_canonical t
  rw [same] at there
  exact there.trans (reordered_canonical u).symm

/-! ## What a reordering keeps -/

theorem self_mem_subtrees (t : Tree) : t ∈ t.subtrees := by
  cases t with
  | node r cs =>
    rw [subtrees]
    exact List.mem_cons_self

/-- Siblings are distinct if those at the top are and those below each of them. -/
theorem distinctSiblings_node {r : Resource} {cs : List Tree} :
    (node r cs).DistinctSiblings ↔ (cs.map uid).Nodup ∧ ∀ c ∈ cs, c.DistinctSiblings := by
  constructor
  · intro distinct
    refine ⟨distinct _ (self_mem_subtrees _), fun c child u inside => distinct u ?_⟩
    rw [subtrees]
    exact List.mem_cons_of_mem _ (mem_subtreesList.2 ⟨c, child, inside⟩)
  · rintro ⟨own, below⟩ u member
    rw [subtrees] at member
    rcases List.mem_cons.1 member with rfl | inside
    · exact own
    · obtain ⟨c, child, inside⟩ := mem_subtreesList.1 inside
      exact below c child u inside

theorem Permuted.resource_eq (step : Permuted t u) : u.resource = t.resource := by
  cases step <;> rfl

/-- Siblings that change places stay distinct. -/
theorem Permuted.distinctSiblings (step : Permuted t u) (distinct : t.DistinctSiblings) :
    u.DistinctSiblings := by
  induction step with
  | here perm =>
    obtain ⟨own, below⟩ := distinctSiblings_node.1 distinct
    exact distinctSiblings_node.2
      ⟨(perm.map uid).nodup_iff.1 own, fun c child => below c (perm.mem_iff.2 child)⟩
  | deeper before after inside ih =>
    obtain ⟨own, below⟩ := distinctSiblings_node.1 distinct
    have same : uid _ = uid _ := congrArg Resource.uid inside.resource_eq
    rw [List.forall_mem_append, List.forall_mem_cons] at below
    rw [distinctSiblings_node, List.forall_mem_append, List.forall_mem_cons]
    refine ⟨?_, below.1, ih below.2.1, below.2.2⟩
    rw [List.map_append, List.map_cons] at own ⊢
    exact same ▸ own

/-- Siblings with distinct uids have one canonical order, so that a permutation does not show. -/
theorem Permuted.canonical_eq (step : Permuted t u) (distinct : t.DistinctSiblings) :
    u.canonical = t.canonical := by
  induction step with
  | here perm =>
    rw [canonical_node, canonical_node, arranged_perm (distinctSiblings_node.1 distinct).1 perm]
  | deeper before after inside ih =>
    have below := (distinctSiblings_node.1 distinct).2 _ (List.mem_append_right _ List.mem_cons_self)
    rw [canonical_node, canonical_node, arranged, arranged, canonicalList_eq_map,
      canonicalList_eq_map, List.map_append, List.map_append, List.map_cons, List.map_cons, ih below]

/-- Trees of one order or another have one canonical form. -/
theorem Reordered.canonical_eq (reordered : Reordered t u) (distinct : t.DistinctSiblings) :
    u.canonical = t.canonical := by
  have kept : u.DistinctSiblings ∧ u.canonical = t.canonical := by
    induction reordered with
    | refl => exact ⟨distinct, rfl⟩
    | tail _ step ih => exact ⟨step.distinctSiblings ih.1, (step.canonical_eq ih.1).trans ih.2⟩
  exact kept.2

/-- A permutation keeps the occurrences of resources below resources, in a tree that itself stands below
some. -/
theorem Permuted.lineages_perm (step : Permuted t u) (above : List Resource) :
    ((u.occurrencesBelow above).map fun o => (o.above, o.resource)).Perm
      ((t.occurrencesBelow above).map fun o => (o.above, o.resource)) := by
  induction step generalizing above with
  | here perm =>
    simp only [occurrencesBelow, occurrencesBelowList_eq, List.map_cons]
    exact ((perm.symm.flatMap_right _).map _).cons _
  | deeper before after inside ih =>
    simp only [occurrencesBelow, occurrencesBelowList_eq, List.flatMap_append, List.flatMap_cons,
      List.map_cons, List.map_append]
    exact (((ih _).append_right _).append_left _).cons _

/-- A reordering keeps every record below the records it stood below. -/
theorem Reordered.lineages_perm (reordered : Reordered t u) : u.lineages.Perm t.lineages := by
  induction reordered with
  | refl => exact .refl _
  | tail _ step ih => exact (step.lineages_perm []).trans ih

/-! ## Structural equality -/

/-- Trees in which siblings have distinct uids are structurally equal exactly if one is a reordering of
the other. Structural equality is an equivalence of all trees, and it fails for any two trees that differ
in what resources they hold, as to any field, how many of them, or below which others. -/
theorem structurallyEqual_iff_reordered :
    (∀ t u : Tree, t.DistinctSiblings → u.DistinctSiblings →
      (t.structurallyEqual u = true ↔ Reordered t u)) ∧
    Equivalence (fun t u : Tree => t.structurallyEqual u = true) ∧
    ∀ t u : Tree, ¬ t.lineages.Perm u.lineages → t.structurallyEqual u = false := by
  simp only [← Bool.not_eq_true, structurallyEqual_iff]
  refine ⟨fun t u distinct _ => ⟨reordered_of_canonical, fun reordered => ?_⟩, ?_, ?_⟩
  · exact (reordered.canonical_eq distinct).symm
  · exact ⟨fun _ => rfl, Eq.symm, Eq.trans⟩
  · intro t u differ same
    exact differ (reordered_of_canonical same).symm.lineages_perm

/-- Turning the workloads and their pods round is a reordering. With one pod moved to the other workload,
the uids are the same, but the trees are not structurally equal. -/
theorem structurallyEqual_iff_reordered_workloads :
    let leaf (uid parent : String) : Tree := .node (Store.placed uid (some parent)) []
    let web (pods : List Tree) : Tree := .node (Store.placed "web" (some "root")) pods
    let db (pods : List Tree) : Tree := .node (Store.placed "db" (some "root")) pods
    let root : List Tree → Tree := .node (Store.placed "root" none)
    let given := root [web [leaf "a" "web", leaf "b" "web"], db []]
    let turned := root [db [], web [leaf "b" "web", leaf "a" "web"]]
    let moved := root [web [leaf "a" "web"], db [leaf "b" "web"]]
    given.DistinctSiblings ∧ turned.DistinctSiblings ∧ given ≠ turned ∧
      (given.structurallyEqual turned = true ↔ Reordered given turned) ∧
      ¬ given.lineages.Perm moved.lineages ∧ given.structurallyEqual moved = false := by
  intro leaf web db root given turned moved
  obtain ⟨reordered, -, differ⟩ := structurallyEqual_iff_reordered
  have left : given.DistinctSiblings := by decide
  have right : turned.DistinctSiblings := by decide
  have elsewhere : ¬ given.lineages.Perm moved.lineages := by decide
  exact ⟨left, right, by decide, reordered given turned left right, elsewhere,
    differ given moved elsewhere⟩

end ResourceTree.Tree
