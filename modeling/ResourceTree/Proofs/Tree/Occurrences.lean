import Mathlib.Data.List.Nodup
import Mathlib.Data.List.Perm.Basic
import ResourceTree.Proofs.Tree.Modify

/-!
# Occurrences

A uid may stand at several places of a tree, below different nodes. An occurrence is a node together
with the resources above it. A walk goes from occurrence to occurrence: its stack holds occurrences,
and each step replaces the first of them by its children or drops it.
-/

namespace ResourceTree
set_option autoImplicit false

/-- A node at its place. -/
structure Occurrence where
  /-- What stands above the node, the root first. -/
  above : List Resource
  tree : Tree

namespace Occurrence

def resource (o : Occurrence) : Resource := o.tree.resource

def uid (o : Occurrence) : String := o.tree.uid

def depth (o : Occurrence) : Nat := o.above.length

def children (o : Occurrence) : List Occurrence :=
  o.tree.children.map (⟨o.above ++ [o.resource], ·⟩)

end Occurrence

namespace Tree

mutual

/-- The occurrences of a tree that stands below some resources, in pre-order. -/
def occurrencesBelow (above : List Resource) : Tree → List Occurrence
  | node r cs => ⟨above, node r cs⟩ :: occurrencesBelowList (above ++ [r]) cs

def occurrencesBelowList (above : List Resource) : List Tree → List Occurrence
  | [] => []
  | t :: rest => occurrencesBelow above t ++ occurrencesBelowList above rest

end

/-- All occurrences in pre-order. -/
def occurrences (t : Tree) : List Occurrence := t.occurrencesBelow []

/-- The pairs of a parent and one of its children, by parents in pre-order and then by children. -/
def links (t : Tree) : List (Occurrence × Occurrence) :=
  t.occurrences.flatMap fun o => o.children.map (o, ·)

/-- The occurrences in siblings are those in each of them. -/
theorem occurrencesBelowList_eq (above : List Resource) (ts : List Tree) :
    occurrencesBelowList above ts = ts.flatMap (occurrencesBelow above) := by
  induction ts with
  | nil => rfl
  | cons t ts ih => rw [occurrencesBelowList, ih, List.flatMap_cons]

theorem subtreesList_eq_flatMap (ts : List Tree) : subtreesList ts = ts.flatMap subtrees := by
  induction ts with
  | nil => rfl
  | cons t ts ih => rw [subtreesList, ih, List.flatMap_cons]

/-- A child is smaller than its parent. -/
theorem size_lt_of_mem {r : Resource} {cs : List Tree} {c : Tree} (child : c ∈ cs) :
    c.size < (node r cs).size := by
  have bound : c.size ≤ sizeList cs := by
    induction cs with
    | nil => cases child
    | cons t cs ih =>
      rw [sizeList]
      rcases List.mem_cons.1 child with rfl | child
      · omega
      · have below := ih child
        omega
  rw [size]
  omega

end Tree

namespace Occurrence

/-- The occurrence and all that stand below it, in pre-order. -/
def within (o : Occurrence) : List Occurrence := o.tree.occurrencesBelow o.above

/-- In an occurrence are itself and what is in its children, in tree order. -/
theorem within_eq (o : Occurrence) : o.within = o :: o.children.flatMap within := by
  obtain ⟨above, t⟩ := o
  cases t with
  | node r cs =>
    rw [within, Tree.occurrencesBelow, Tree.occurrencesBelowList_eq, children, List.flatMap_map]
    rfl

theorem self_mem_within (o : Occurrence) : o ∈ o.within := by
  rw [within_eq]
  exact List.mem_cons_self

/-- What is in an occurrence is itself or in a child of it. -/
theorem mem_within {o x : Occurrence} : x ∈ o.within ↔ x = o ∨ ∃ c ∈ o.children, x ∈ c.within := by
  rw [within_eq, List.mem_cons, List.mem_flatMap]

/-- A child occurrence is smaller than its parent. -/
theorem size_child {o c : Occurrence} (child : c ∈ o.children) : c.tree.size < o.tree.size := by
  obtain ⟨above, t⟩ := o
  obtain ⟨u, member, rfl⟩ := List.mem_map.1 child
  cases t with
  | node r cs => exact Tree.size_lt_of_mem member

/-- Above a child are the records above its parent, and its parent's. -/
theorem above_child {o c : Occurrence} (child : c ∈ o.children) :
    c.above = o.above ++ [o.resource] := by
  obtain ⟨u, -, rfl⟩ := List.mem_map.1 child
  rfl

theorem child_mem {o : Occurrence} {t : Tree} (child : t ∈ o.tree.children) :
    (⟨o.above ++ [o.resource], t⟩ : Occurrence) ∈ o.children :=
  List.mem_map_of_mem child

theorem tree_child {o c : Occurrence} (child : c ∈ o.children) : c.tree ∈ o.tree.children := by
  obtain ⟨u, member, rfl⟩ := List.mem_map.1 child
  exact member

/-- A child is not the root. -/
theorem above_child_ne_nil {o c : Occurrence} (child : c ∈ o.children) : c.above ≠ [] := by
  rw [above_child child]
  exact List.append_ne_nil_of_right_ne_nil _ (List.cons_ne_nil _ _)

/-- What holds of an occurrence if it holds of its children holds of all. -/
theorem induction {P : Occurrence → Prop} (step : ∀ o, (∀ c ∈ o.children, P c) → P o)
    (o : Occurrence) : P o := by
  generalize bound : o.tree.size = n
  induction n using Nat.strongRecOn generalizing o with
  | ind n ih =>
    refine step o fun c child => ih c.tree.size ?_ c rfl
    rw [← bound]
    exact size_child child

/-- What stands below an occurrence has above it what the occurrence has, and the occurrence. -/
theorem above_of_mem_within {o x : Occurrence} (h : x ∈ o.within) : o.above <+: x.above := by
  induction o using induction with
  | step o ih =>
    rcases mem_within.1 h with rfl | ⟨c, child, inside⟩
    · exact List.prefix_rfl
    · have longer := ih c child inside
      rw [above_child child] at longer
      exact (List.prefix_append _ _).trans longer

/-- The trees in an occurrence are the subtrees of its tree. -/
theorem map_tree_within (o : Occurrence) : o.within.map tree = o.tree.subtrees := by
  induction o using induction with
  | step o ih =>
    rw [within_eq, List.map_cons, List.map_flatMap, List.flatMap_congr ih]
    obtain ⟨above, t⟩ := o
    cases t with
    | node r cs =>
      rw [Tree.subtrees, Tree.subtreesList_eq_flatMap, children, List.flatMap_map]
      rfl

/-- The uids in an occurrence are those of its tree. -/
theorem map_uid_within (o : Occurrence) : o.within.map uid = o.tree.uids := by
  rw [Tree.uids, ← map_tree_within, List.map_map]
  rfl

/-- Every occurrence but the first is the child of one. -/
theorem within_perm (o : Occurrence) : o.within.Perm (o :: o.within.flatMap children) := by
  induction o using induction with
  | step o ih =>
    have below : (o.children.flatMap within).Perm
        (o.children ++ (o.children.flatMap within).flatMap children) := by
      refine (List.Perm.flatMap_left o.children ih).trans ?_
      refine (List.map_append_flatMap_perm o.children id fun c => c.within.flatMap children).symm.trans
        ?_
      rw [List.map_id, List.flatMap_assoc]
    rw [within_eq, List.flatMap_cons]
    exact below.cons o

end Occurrence

namespace Tree

/-- The uids of the occurrences are those of the tree, in order. -/
theorem map_uid_occurrences (t : Tree) : t.occurrences.map Occurrence.uid = t.uids :=
  Occurrence.map_uid_within ⟨[], t⟩

/-- An occurrence stands for a subtree. -/
theorem tree_mem_subtrees {t : Tree} {o : Occurrence} (h : o ∈ t.occurrences) :
    o.tree ∈ t.subtrees := by
  rw [← Occurrence.map_tree_within ⟨[], t⟩]
  exact List.mem_map_of_mem h

/-- The occurrences of a tree are its root and the children of occurrences. -/
theorem mem_occurrences {t : Tree} {o : Occurrence} :
    o ∈ t.occurrences ↔ o = ⟨[], t⟩ ∨ ∃ p ∈ t.occurrences, o ∈ p.children := by
  show o ∈ Occurrence.within ⟨[], t⟩ ↔ _
  rw [(Occurrence.within_perm ⟨[], t⟩).mem_iff, List.mem_cons, List.mem_flatMap]
  rfl

/-- A link is an occurrence with one of its children. -/
theorem mem_links {t : Tree} {o c : Occurrence} :
    (o, c) ∈ t.links ↔ o ∈ t.occurrences ∧ c ∈ o.children := by
  rw [links, List.mem_flatMap]
  constructor
  · rintro ⟨o', member, link⟩
    obtain ⟨c', child, same⟩ := List.mem_map.1 link
    cases same
    exact ⟨member, child⟩
  · rintro ⟨member, child⟩
    exact ⟨o, member, List.mem_map_of_mem child⟩

/-- Without repeated uids, the uids of the start and of all children are distinct. -/
theorem nodup_children_uids {t : Tree} (distinct : t.uids.Nodup) :
    (t.uid :: (t.occurrences.flatMap Occurrence.children).map Occurrence.uid).Nodup := by
  rw [← map_uid_occurrences] at distinct
  exact ((Occurrence.within_perm ⟨[], t⟩).map Occurrence.uid).nodup_iff.1 distinct

/-- Without repeated uids an occurrence is known by its uid. -/
theorem occurrence_unique {t : Tree} (distinct : t.uids.Nodup) {o o' : Occurrence}
    (member : o ∈ t.occurrences) (member' : o' ∈ t.occurrences) (same : o.uid = o'.uid) : o = o' := by
  rw [← map_uid_occurrences] at distinct
  exact List.inj_on_of_nodup_map distinct member member' same

/-- The number of nodes at and below the first node with a uid. -/
def sizeAt (uid : String) (t : Tree) : Nat := ((t.find? uid).map size).getD 0

/-- Without repeated uids the size at a uid is that of its occurrence. -/
theorem sizeAt_uid {t : Tree} (distinct : t.uids.Nodup) {o : Occurrence}
    (member : o ∈ t.occurrences) : t.sizeAt o.uid = o.tree.size := by
  have found := find?_of_mem_subtrees distinct (tree_mem_subtrees member)
  rw [sizeAt, Occurrence.uid, found]
  rfl

end Tree

/-! ## Walks -/

namespace Occurrence

/-- What the stack of a walk holds of an occurrence. -/
def entry (o : Occurrence) : Tree × Nat := (o.tree, o.depth)

/-- What a verdict on an occurrence puts in its place on the stack. -/
def successors (o : Occurrence) : Visit → List Occurrence
  | .proceed => o.children
  | .skipChildren => []

theorem map_entry_children (o : Occurrence) :
    o.children.map entry = Tree.atDepth (o.depth + 1) o.tree.children := by
  rw [children, Tree.atDepth, List.map_map]
  refine List.map_congr_left fun t _ => ?_
  simp [entry, depth]

end Occurrence

namespace Tree

open Occurrence (entry)

variable {σ : Type} (visit : σ → Tree → Nat → σ × Visit)

/-- The nodes that a walk shows to its visitor, each with the state at that moment. -/
def showings (s : σ) : List (Tree × Nat) → List (σ × Tree × Nat)
  | [] => []
  | (node r cs, depth) :: rest =>
    (s, node r cs, depth) :: match visit s (node r cs) depth with
      | (s', .skipChildren) => showings s' rest
      | (s', .proceed) => showings s' (atDepth (depth + 1) cs ++ rest)
  termination_by stack => stackSize stack
  decreasing_by
    · simp only [stackSize, List.map_cons, sizeList, size]; omega
    · rw [stackSize_push]; simp only [stackSize, List.map_cons, sizeList, size]; omega

variable {visit}

/-- A walk visits the first occurrence and goes on with its successors. -/
theorem walkStack_cons (s : σ) (o : Occurrence) (rest : List Occurrence) :
    walkStack visit s ((o :: rest).map entry) =
      walkStack visit (visit s o.tree o.depth).1
        ((o.successors (visit s o.tree o.depth).2 ++ rest).map entry) := by
  rw [List.map_append, List.map_cons]
  obtain ⟨above, t⟩ := o
  cases t with
  | node r cs =>
    rw [entry, walkStack]
    split
    · next s' verdict => rw [verdict]; rfl
    · next s' verdict => rw [verdict, Occurrence.successors, Occurrence.map_entry_children]; rfl

/-- The visitor is shown the first occurrence, and then what the rest of the walk shows it. -/
theorem showings_cons (s : σ) (o : Occurrence) (rest : List Occurrence) :
    showings visit s ((o :: rest).map entry) =
      (s, o.entry) :: showings visit (visit s o.tree o.depth).1
        ((o.successors (visit s o.tree o.depth).2 ++ rest).map entry) := by
  rw [List.map_append, List.map_cons]
  obtain ⟨above, t⟩ := o
  cases t with
  | node r cs =>
    rw [entry, showings]
    refine congrArg _ ?_
    split
    · next s' verdict => rw [verdict]; rfl
    · next s' verdict => rw [verdict, Occurrence.successors, Occurrence.map_entry_children]; rfl

/-- A visit leaves less on the stack. -/
theorem stackSize_successors (o : Occurrence) (verdict : Visit) (rest : List Occurrence) :
    stackSize ((o.successors verdict ++ rest).map entry) < stackSize ((o :: rest).map entry) := by
  rw [List.map_append, List.map_cons]
  obtain ⟨above, t⟩ := o
  cases t with
  | node r cs =>
    cases verdict with
    | skipChildren =>
      simp only [Occurrence.successors, stackSize, entry, List.map_nil, List.nil_append,
        List.map_cons, sizeList, size]
      omega
    | proceed =>
      rw [Occurrence.successors, Occurrence.map_entry_children, stackSize_push]
      simp only [stackSize, entry, List.map_cons, sizeList, size, children]
      omega

/-- What each step of a walk keeps holds whenever a node is shown, with that node on top of the
stack. -/
theorem showings_induction (stack : List Occurrence) {I : σ → List Occurrence → Prop} {s : σ}
    (start : I s stack)
    (step : ∀ s' o rest, I s' (o :: rest) →
      I (visit s' o.tree o.depth).1 (o.successors (visit s' o.tree o.depth).2 ++ rest))
    {s' : σ} {shown : Tree × Nat} (h : (s', shown) ∈ showings visit s (stack.map entry)) :
    ∃ o rest, o.entry = shown ∧ I s' (o :: rest) := by
  generalize bound : stackSize (stack.map entry) = n
  induction n using Nat.strongRecOn generalizing s stack with
  | ind n ih =>
    cases stack with
    | nil =>
      rw [List.map_nil, showings] at h
      cases h
    | cons o rest =>
      rw [showings_cons] at h
      rcases List.mem_cons.1 h with here | later
      · cases here
        exact ⟨o, rest, rfl, start⟩
      · refine ih _ ?_ _ (step s o rest start) later rfl
        rw [← bound]
        exact stackSize_successors o _ rest

/-- From each of its showings, a walk goes on with that node on top of the stack. -/
theorem walkStack_of_showing (stack : List Occurrence) {s s' : σ} {shown : Tree × Nat}
    (h : (s', shown) ∈ showings visit s (stack.map entry)) :
    ∃ o rest, o.entry = shown ∧
      walkStack visit s (stack.map entry) = walkStack visit s' ((o :: rest).map entry) :=
  showings_induction stack
    (I := fun s' rest => walkStack visit s (stack.map entry) = walkStack visit s' (rest.map entry))
    rfl (fun s' o rest same => same.trans (walkStack_cons s' o rest)) h

/-- What relates the state of a walk to the rest of its stack, if each showing keeps it, holds at the
end for an empty stack. -/
theorem walkStack_induction (visit : σ → Tree → Nat → σ × Visit) (s : σ) (stack : List Occurrence)
    {I : σ → List Occurrence → Prop} (start : I s stack)
    (step : ∀ s' o rest, (s', o.entry) ∈ showings visit s (stack.map entry) → I s' (o :: rest) →
      I (visit s' o.tree o.depth).1 (o.successors (visit s' o.tree o.depth).2 ++ rest)) :
    I (walkStack visit s (stack.map entry)) [] := by
  generalize bound : stackSize (stack.map entry) = n
  induction n using Nat.strongRecOn generalizing s stack with
  | ind n ih =>
    cases stack with
    | nil =>
      rw [List.map_nil, walkStack]
      exact start
    | cons o rest =>
      rw [showings_cons] at step
      rw [walkStack_cons]
      refine ih _ ?_ _ _ (step s o rest List.mem_cons_self start) ?_ rfl
      · rw [← bound]
        exact stackSize_successors o _ rest
      · exact fun s' o' rest' shown => step s' o' rest' (List.mem_cons_of_mem _ shown)

end Tree

end ResourceTree
