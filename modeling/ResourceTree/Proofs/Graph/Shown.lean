import Mathlib.Logic.Relation
import ResourceTree.Graph.Projection
import ResourceTree.Proofs.Graph.Projection
import ResourceTree.Proofs.Resource.Kind
import ResourceTree.Proofs.Tree.Modify
import ResourceTree.Proofs.Tree.Occurrences

/-!
# What a graph shows

In a subtree without repeated uids, the graph has a node for every occurrence that is of no excluded
kind and open: no application that is shown stands between it and the start. Edges go from parents
to children where both are shown, but none leaves an application below the start. The walk adds
nodes and edges from the front of the two lists that this describes, which is what `Progress` says.
-/

namespace ResourceTree
set_option autoImplicit false

/-- The kinds of applications that graphs show collapsed. -/
def boundaryKinds : List String := ["Kustomization", "HelmRelease"]

/-- An application that a graph shows, unless it is left out by kind. -/
def Resource.Bounds (excluded : List String) (r : Resource) : Prop :=
  r.kind ∈ boundaryKinds ∧ r.kind ∉ excluded

instance (excluded : List String) (r : Resource) : Decidable (r.Bounds excluded) :=
  inferInstanceAs (Decidable (r.kind ∈ boundaryKinds ∧ r.kind ∉ excluded))

theorem Resource.isOfKind_isBoundary (r : Resource) :
    r.isOfKind Kind.isBoundary = true ↔ r.kind ∈ boundaryKinds := by
  rw [Kind.isOfKind_iff]
  constructor
  · rintro ⟨k, bounds, named⟩
    rw [← named]
    cases k <;> first | decide | cases bounds
  · intro member
    simp only [boundaryKinds, List.mem_cons, List.not_mem_nil, or_false] at member
    rcases member with named | named
    · exact ⟨.kustomization, rfl, named.symm⟩
    · exact ⟨.helmRelease, rfl, named.symm⟩

namespace Occurrence

/-- No application that is shown stands strictly between the start and the occurrence. -/
def Open (excluded : List String) (o : Occurrence) : Prop :=
  ∀ r ∈ o.above.tail, ¬ r.Bounds excluded

def Shown (excluded : List String) (o : Occurrence) : Prop :=
  o.resource.kind ∉ excluded ∧ o.Open excluded

/-- The start itself, or no application. -/
def Expanded (o : Occurrence) : Prop := o.above = [] ∨ o.resource.kind ∉ boundaryKinds

instance (excluded : List String) (o : Occurrence) : Decidable (o.Open excluded) :=
  inferInstanceAs (Decidable (∀ r ∈ o.above.tail, ¬ r.Bounds excluded))

instance (excluded : List String) (o : Occurrence) : Decidable (o.Shown excluded) :=
  inferInstanceAs (Decidable (o.resource.kind ∉ excluded ∧ o.Open excluded))

instance (o : Occurrence) : Decidable o.Expanded :=
  inferInstanceAs (Decidable (o.above = [] ∨ o.resource.kind ∉ boundaryKinds))

variable {excluded : List String} {o c x : Occurrence}

/-- A child of the root can be reached, and any other whose parent can and stops nobody. -/
theorem open_child (child : c ∈ o.children) :
    c.Open excluded ↔ o.above = [] ∨ o.Open excluded ∧ ¬ o.resource.Bounds excluded := by
  unfold Open
  rw [above_child child]
  cases o.above with
  | nil => simp
  | cons r rest => simp [or_imp, forall_and]

/-- A child can be reached where the walk goes on. -/
theorem open_of_child (child : c ∈ o.children) (isOpen : o.Open excluded)
    (passable : o.Expanded ∨ o.resource.kind ∈ excluded) : c.Open excluded := by
  rw [open_child child]
  rcases passable with (root | other) | left
  · exact .inl root
  · exact .inr ⟨isOpen, fun bounds => other bounds.1⟩
  · exact .inr ⟨isOpen, fun bounds => bounds.2 left⟩

/-- What stands below an application that is shown below the start is not open. -/
theorem not_open_below (nested : o.above ≠ []) (bounds : o.resource.Bounds excluded)
    (below : x ∈ o.children.flatMap within) : ¬ x.Open excluded := by
  obtain ⟨c, child, inside⟩ := List.mem_flatMap.1 below
  obtain ⟨further, above⟩ := above_of_mem_within inside
  rw [above_child child] at above
  intro isOpen
  refine isOpen o.resource ?_ bounds
  rw [← above]
  cases start : o.above with
  | nil => exact absurd start nested
  | cons r rest => simp

end Occurrence

namespace Projection

open Occurrence (within)

/-- A parent and its child, both shown, where the parent does not hide its children. -/
def Drawn (excluded : List String) (link : Occurrence × Occurrence) : Prop :=
  link.1.Shown excluded ∧ link.2.Shown excluded ∧ link.1.Expanded

instance (excluded : List String) (link : Occurrence × Occurrence) :
    Decidable (Drawn excluded link) :=
  inferInstanceAs
    (Decidable (link.1.Shown excluded ∧ link.2.Shown excluded ∧ link.1.Expanded))

/-- An edge is drawn to a shown child of a node that is not excluded. -/
theorem drawn_of_child {excluded : List String} {o c : Occurrence} (child : c ∈ o.children)
    (shown : c.Shown excluded) (kept : o.resource.kind ∉ excluded) : Drawn excluded (o, c) := by
  rcases (Occurrence.open_child child).1 shown.2 with root | ⟨isOpen, notBound⟩
  · have isOpen : o.Open excluded := by
      rw [Occurrence.Open, root]
      exact List.forall_mem_nil _
    exact ⟨⟨kept, isOpen⟩, shown, .inl root⟩
  · exact ⟨⟨kept, isOpen⟩, shown, .inr fun boundary => notBound ⟨boundary, kept⟩⟩

/-- The nodes of the occurrences that are shown. -/
def nodesOf (excluded : List String) (os : List Occurrence) : List GraphNode :=
  (os.filter fun o => o.Shown excluded).map fun o => .ofResource o.resource

/-- The edges that are drawn from one occurrence to its children. -/
def edgesFrom (excluded : List String) (o : Occurrence) : List Edge :=
  ((o.children.map (o, ·)).filter fun link => Drawn excluded link).map
    fun link => { source := link.1.uid, target := link.2.uid }

def edgesOf (excluded : List String) (os : List Occurrence) : List Edge :=
  os.flatMap (edgesFrom excluded)

/-! ## One step of the walk -/

section Step

variable {excluded : List String} {p : Projection} {o : Occurrence}

/-- An occurrence that is excluded or in the graph already is passed over. -/
theorem visit_passed (passed : o.resource.kind ∈ excluded ∨ p.containsNode o.uid = true) :
    visit excluded p o.tree o.depth = (p, .proceed) := by
  have guard : (excluded.contains o.tree.resource.kind || p.containsNode o.tree.uid) = true := by
    rw [Bool.or_eq_true, List.contains_iff_mem]
    exact passed
  rw [visit, if_pos guard]

/-- A node that is shown for the first time is added, and its edges are unless it is collapsed. -/
theorem visit_fresh (kept : o.resource.kind ∉ excluded) (fresh : p.containsNode o.uid = false) :
    visit excluded p o.tree o.depth =
      if o.Expanded then
        ({ p with
            nodes := p.nodes ++ [.ofResource o.resource]
            edges := attachChildren excluded p.edges o.tree }, .proceed)
      else ({ p with nodes := p.nodes ++ [.ofResource o.resource] }, .skipChildren) := by
  have guard : ¬ (excluded.contains o.tree.resource.kind || p.containsNode o.tree.uid) = true := by
    rw [Bool.or_eq_true, List.contains_iff_mem]
    exact not_or.2 ⟨kept, Bool.eq_false_iff.1 fresh⟩
  have collapse : (o.tree.resource.isOfKind Kind.isBoundary && decide (0 < o.depth)) = true ↔
      ¬ o.Expanded := by
    rw [Bool.and_eq_true, Resource.isOfKind_isBoundary, decide_eq_true_eq, Occurrence.Expanded,
      not_or, Classical.not_not, and_comm, Occurrence.depth, List.length_pos_iff]
    exact Iff.rfl
  rw [visit, if_neg guard]
  by_cases expanded : o.Expanded
  · rw [if_pos expanded]
    exact if_neg fun collapsed => collapse.1 collapsed expanded
  · rw [if_neg expanded]
    exact if_pos (collapse.2 expanded)

end Step

/-- Edges into targets that no other edge goes into are added behind the others. -/
theorem foldl_attach {edges new : List Edge}
    (distinct : ((edges ++ new).map (·.target)).Nodup) :
    new.foldl attach edges = edges ++ new := by
  induction new generalizing edges with
  | nil => exact (List.append_nil edges).symm
  | cons e new ih =>
    have kept : attach edges e = edges ++ [e] := by
      rw [attach, List.filter_eq_self.2]
      intro e' member
      rw [List.map_append, List.nodup_append] at distinct
      have apart := distinct.2.2 e'.target (List.mem_map_of_mem member) e.target
        (List.mem_map_of_mem List.mem_cons_self)
      simpa using apart
    rw [List.foldl_cons, kept, ih (by simpa using distinct), List.append_assoc,
      List.singleton_append]

/-- The edges of a node that is shown and not collapsed are those that its visit adds. -/
theorem edgesFrom_eq {excluded : List String} {o : Occurrence} (shown : o.Shown excluded)
    (expanded : o.Expanded) :
    edgesFrom excluded o =
      (o.tree.children.filter fun c => !excluded.contains c.resource.kind).map
        fun c => { source := o.tree.uid, target := c.uid } := by
  have drawn : ∀ c ∈ o.children, Drawn excluded (o, c) ↔ c.resource.kind ∉ excluded := by
    intro c child
    have isOpen : c.Open excluded := Occurrence.open_of_child child shown.2 (.inl expanded)
    exact ⟨fun both => both.2.1.1, fun kept => ⟨shown, ⟨kept, isOpen⟩, expanded⟩⟩
  rw [edgesFrom, List.filter_map, List.map_map]
  have same : o.children.filter ((fun link => decide (Drawn excluded link)) ∘ (o, ·)) =
      o.children.filter fun c => !excluded.contains c.resource.kind := by
    refine List.filter_congr fun c child => ?_
    rw [Bool.eq_iff_iff]
    simp [drawn c child]
  rw [same, Occurrence.children, List.filter_map, List.map_map]
  rfl

/-- From an occurrence that is hidden or collapsed no edge is drawn. -/
theorem edgesFrom_eq_nil {excluded : List String} {o : Occurrence}
    (hidden : ¬ (o.Shown excluded ∧ o.Expanded)) : edgesFrom excluded o = [] := by
  rw [edgesFrom, List.map_eq_nil_iff, List.filter_eq_nil_iff]
  intro link member
  obtain ⟨c, -, rfl⟩ := List.mem_map.1 member
  exact fun drawn => hidden ((of_decide_eq_true drawn).imp_right And.right)

/-! ## The whole walk -/

section Lists

variable {excluded : List String} {o : Occurrence}

/-- A shown occurrence is a node. -/
theorem nodesOf_cons (shown : o.Shown excluded) (os : List Occurrence) :
    nodesOf excluded (o :: os) = .ofResource o.resource :: nodesOf excluded os := by
  rw [nodesOf, List.filter_cons, if_pos (decide_eq_true shown), List.map_cons]
  rfl

/-- A hidden occurrence is none. -/
theorem nodesOf_cons_hidden (hidden : ¬ o.Shown excluded) (os : List Occurrence) :
    nodesOf excluded (o :: os) = nodesOf excluded os := by
  rw [nodesOf, List.filter_cons, if_neg fun shown => hidden (of_decide_eq_true shown)]
  rfl

/-- Occurrences of which none is shown add nothing. -/
theorem nodesOf_append_hidden {os : List Occurrence} (hidden : ∀ o ∈ os, ¬ o.Shown excluded)
    (os' : List Occurrence) : nodesOf excluded (os ++ os') = nodesOf excluded os' := by
  induction os with
  | nil => rfl
  | cons o os ih =>
    rw [List.forall_mem_cons] at hidden
    rw [List.cons_append, nodesOf_cons_hidden hidden.1, ih hidden.2]

theorem edgesOf_cons (o : Occurrence) (os : List Occurrence) :
    edgesOf excluded (o :: os) = edgesFrom excluded o ++ edgesOf excluded os :=
  List.flatMap_cons

/-- Hidden occurrences have no edges. -/
theorem edgesOf_append_hidden {os : List Occurrence} (hidden : ∀ o ∈ os, ¬ o.Shown excluded)
    (os' : List Occurrence) : edgesOf excluded (os ++ os') = edgesOf excluded os' := by
  induction os with
  | nil => rfl
  | cons o os ih =>
    rw [List.forall_mem_cons] at hidden
    rw [List.cons_append, edgesOf_cons, edgesFrom_eq_nil fun both => hidden.1 both.1,
      List.nil_append, ih hidden.2]

/-- On the stack the first occurrence stands for itself and what is below it. -/
theorem flatMap_within_cons (o : Occurrence) (rest : List Occurrence) :
    (o :: rest).flatMap within = o :: (o.children ++ rest).flatMap within := by
  rw [List.flatMap_cons, Occurrence.within_eq, List.flatMap_append, List.cons_append]

end Lists

/-- How far a walk has come: what it has added is the front of all that is shown, and the stack holds
open occurrences with all the rest within them. -/
structure Progress (excluded : List String) (start : Tree) (p : Projection)
    (rest : List Occurrence) : Prop where
  isOpen : ∀ o ∈ rest, o.Open excluded
  nodes : p.nodes ++ nodesOf excluded (rest.flatMap within) = nodesOf excluded start.occurrences
  edges : p.edges ++ edgesOf excluded (rest.flatMap within) = edgesOf excluded start.occurrences

namespace Progress

variable {excluded : List String} {start : Tree} {p : Projection} {o : Occurrence}
  {rest : List Occurrence} (progress : Progress excluded start p (o :: rest))

include progress

theorem here : o.Open excluded := progress.isOpen o List.mem_cons_self

theorem later : ∀ o' ∈ rest, o'.Open excluded :=
  fun o' member => progress.isOpen o' (List.mem_cons_of_mem _ member)

/-- What is below an occurrence where the walk goes on can be reached. -/
theorem descend (passable : o.Expanded ∨ o.resource.kind ∈ excluded) :
    ∀ o' ∈ o.children ++ rest, o'.Open excluded := by
  intro o' member
  rcases List.mem_append.1 member with child | member
  · exact Occurrence.open_of_child child progress.here passable
  · exact progress.later o' member

theorem nodes_cons :
    p.nodes ++ nodesOf excluded (o :: (o.children ++ rest).flatMap within) =
      nodesOf excluded start.occurrences := by
  rw [← flatMap_within_cons]
  exact progress.nodes

theorem edges_cons :
    p.edges ++ (edgesFrom excluded o ++ edgesOf excluded ((o.children ++ rest).flatMap within)) =
      edgesOf excluded start.occurrences := by
  rw [← edgesOf_cons, ← flatMap_within_cons]
  exact progress.edges

/-- An occurrence whose kind is excluded is passed over. -/
theorem pass (left : o.resource.kind ∈ excluded) :
    Progress excluded start p (o.children ++ rest) := by
  have hidden : ¬ o.Shown excluded := fun shown => shown.1 left
  have nodes := progress.nodes_cons
  have edges := progress.edges_cons
  rw [nodesOf_cons_hidden hidden] at nodes
  rw [edgesFrom_eq_nil fun both => hidden both.1, List.nil_append] at edges
  exact ⟨progress.descend (.inr left), nodes, edges⟩

/-- An occurrence that is expanded brings its node and its edges in. -/
theorem expand (kept : o.resource.kind ∉ excluded) (expanded : o.Expanded) :
    Progress excluded start
      { p with nodes := p.nodes ++ [.ofResource o.resource], edges := p.edges ++ edgesFrom excluded o }
      (o.children ++ rest) := by
  have nodes := progress.nodes_cons
  have edges := progress.edges_cons
  rw [nodesOf_cons ⟨kept, progress.here⟩, ← List.singleton_append, ← List.append_assoc] at nodes
  rw [← List.append_assoc] at edges
  exact ⟨progress.descend (.inl expanded), nodes, edges⟩

/-- An occurrence that is collapsed brings its node in, and what is below it is hidden. -/
theorem collapse (kept : o.resource.kind ∉ excluded) (collapsed : ¬ o.Expanded) :
    Progress excluded start { p with nodes := p.nodes ++ [.ofResource o.resource] } rest := by
  obtain ⟨nested, boundary⟩ := not_or.1 collapsed
  have hidden : ∀ x ∈ o.children.flatMap within, ¬ x.Shown excluded := by
    intro x below shown
    exact Occurrence.not_open_below nested ⟨Classical.not_not.1 boundary, kept⟩ below shown.2
  have nodes := progress.nodes_cons
  have edges := progress.edges_cons
  rw [nodesOf_cons ⟨kept, progress.here⟩, List.flatMap_append, nodesOf_append_hidden hidden,
    ← List.singleton_append, ← List.append_assoc] at nodes
  rw [edgesFrom_eq_nil fun both => collapsed both.2, List.nil_append, List.flatMap_append,
    edgesOf_append_hidden hidden] at edges
  exact ⟨progress.later, nodes, edges⟩

end Progress

/-! ## Distinct uids -/

/-- No node has two edges into it, and no path of edges comes back to where it began. -/
structure IsForest (edges : List Edge) : Prop where
  once : (edges.map (·.target)).Nodup
  acyclic : ∀ id, ¬ Relation.TransGen (fun a b => { source := a, target := b : Edge } ∈ edges) id id

section Distinct

variable {excluded : List String} {start : Tree}

/-- The edges of a tree are its drawn links. -/
theorem edgesOf_occurrences :
    edgesOf excluded start.occurrences =
      (start.links.filter fun link => Drawn excluded link).map
        fun link => { source := link.1.uid, target := link.2.uid } := by
  rw [Tree.links, List.filter_flatMap, List.map_flatMap]
  rfl

variable (distinct : start.uids.Nodup)

include distinct

/-- Without repeated uids no node stands in the graph twice. -/
theorem nodup_nodesOf : ((nodesOf excluded start.occurrences).map (·.id)).Nodup := by
  rw [← Tree.map_uid_occurrences] at distinct
  rw [nodesOf, List.map_map]
  exact distinct.sublist (List.filter_sublist.map Occurrence.uid)

/-- Without repeated uids no two edges lead to one node. -/
theorem nodup_edgesOf : ((edgesOf excluded start.occurrences).map (·.target)).Nodup := by
  have links : start.links.map (·.2) = start.occurrences.flatMap Occurrence.children := by
    rw [Tree.links, List.map_flatMap]
    simp [Function.comp_def]
  have children := (List.nodup_cons.1 (Tree.nodup_children_uids distinct)).2
  rw [← links, List.map_map] at children
  rw [edgesOf_occurrences, List.map_map]
  exact children.sublist (List.filter_sublist.map _)

section Step

variable {p : Projection} {o : Occurrence} {rest : List Occurrence}
  (progress : Progress excluded start p (o :: rest)) (kept : o.resource.kind ∉ excluded)

include progress kept

/-- The node of the next occurrence has not been added before, since no id is repeated. -/
theorem Progress.fresh : p.containsNode o.uid = false := by
  have ids : ((nodesOf excluded start.occurrences).map (·.id)).Nodup := nodup_nodesOf distinct
  rw [← progress.nodes_cons, nodesOf_cons ⟨kept, progress.here⟩, List.map_append,
    List.nodup_append] at ids
  rw [containsNode, List.any_eq_false]
  intro n member
  have apart := ids.2.2 n.id (List.mem_map_of_mem member) o.uid
    (List.mem_map_of_mem List.mem_cons_self)
  simpa using apart

/-- Nor do the edges of the next occurrence replace any. -/
theorem Progress.attached (expanded : o.Expanded) :
    attachChildren excluded p.edges o.tree = p.edges ++ edgesFrom excluded o := by
  have targets : ((edgesOf excluded start.occurrences).map (·.target)).Nodup :=
    nodup_edgesOf distinct
  rw [← progress.edges_cons, ← List.append_assoc, List.map_append, List.nodup_append] at targets
  rw [attachChildren, ← edgesFrom_eq ⟨kept, progress.here⟩ expanded]
  exact foldl_attach targets.1

end Step

/-- One visit of the walk adds what is to be shown of one occurrence. -/
theorem Progress.step {p : Projection} {o : Occurrence} {rest : List Occurrence}
    (progress : Progress excluded start p (o :: rest)) :
    Progress excluded start (visit excluded p o.tree o.depth).1
      (o.successors (visit excluded p o.tree o.depth).2 ++ rest) := by
  by_cases left : o.resource.kind ∈ excluded
  · rw [visit_passed (.inl left)]
    exact progress.pass left
  · rw [visit_fresh left (progress.fresh distinct left)]
    by_cases expanded : o.Expanded
    · rw [if_pos expanded, progress.attached distinct left expanded]
      exact progress.expand left expanded
    · rw [if_neg expanded]
      exact progress.collapse left expanded

/-- The graph shows exactly the shown occurrences and the drawn links. -/
theorem ofTree_nodes_edges :
    (ofTree excluded start).nodes = nodesOf excluded start.occurrences ∧
      (ofTree excluded start).edges = edgesOf excluded start.occurrences := by
  have start' : Progress excluded start { root := start.uid } [⟨[], start⟩] := by
    refine ⟨fun o member => ?_, ?_, ?_⟩
    · rw [List.mem_singleton.1 member]
      exact List.forall_mem_nil _
    · rw [List.flatMap_singleton]
      rfl
    · rw [List.flatMap_singleton]
      rfl
  have finish : Progress excluded start (ofTree excluded start) [] :=
    Tree.walkStack_induction _ _ _ start' fun p o rest _ progress => progress.step distinct
  have nodes := finish.nodes
  have edges := finish.edges
  rw [List.flatMap_nil] at nodes edges
  exact ⟨(List.append_nil _).symm.trans nodes, (List.append_nil _).symm.trans edges⟩

/-- An edge stands for a drawn link. -/
theorem mem_edges_iff {a b : String} :
    { source := a, target := b : Edge } ∈ (ofTree excluded start).edges ↔
      ∃ link ∈ start.links, Drawn excluded link ∧ link.1.uid = a ∧ link.2.uid = b := by
  rw [(ofTree_nodes_edges distinct).2, edgesOf_occurrences]
  simp [and_assoc]

/-- Along an edge of the graph, less and less stands below. -/
theorem sizeAt_lt_of_edge {a b : String}
    (edge : { source := a, target := b : Edge } ∈ (ofTree excluded start).edges) :
    start.sizeAt b < start.sizeAt a := by
  obtain ⟨⟨o, c⟩, link, -, rfl, rfl⟩ := (mem_edges_iff distinct).1 edge
  obtain ⟨parent, child⟩ := Tree.mem_links.1 link
  rw [Tree.sizeAt_uid distinct parent,
    Tree.sizeAt_uid distinct (Tree.mem_occurrences.2 (.inr ⟨o, parent, child⟩))]
  exact Occurrence.size_child child

/-- The graph of a tree without repeated uids is a forest. -/
theorem isForest_ofTree : IsForest (ofTree excluded start).edges := by
  refine ⟨?_, fun id cycle => ?_⟩
  · rw [(ofTree_nodes_edges distinct).2]
    exact nodup_edgesOf distinct
  · have path : ∀ b, Relation.TransGen
        (fun a b => { source := a, target := b : Edge } ∈ (ofTree excluded start).edges) id b →
        start.sizeAt b < start.sizeAt id := by
      intro b path
      induction path with
      | single first => exact sizeAt_lt_of_edge distinct first
      | tail _ last ih => exact Nat.lt_trans (sizeAt_lt_of_edge distinct last) ih
    exact Nat.lt_irrefl _ (path id cycle)

/-- No edge leads to a node exactly if no link to it is drawn. -/
theorem edgesInto_eq_nil_iff_links {o : Occurrence} (member : o ∈ start.occurrences) :
    (ofTree excluded start).edgesInto o.uid = [] ↔
      ∀ p ∈ start.occurrences, o ∈ p.children → ¬ Drawn excluded (p, o) := by
  rw [edgesInto, List.filter_eq_nil_iff]
  constructor
  · intro none p parent child drawn
    refine none { source := p.uid, target := o.uid } ?_ (decide_eq_true rfl)
    exact (mem_edges_iff distinct).2 ⟨(p, o), Tree.mem_links.2 ⟨parent, child⟩, drawn, rfl, rfl⟩
  · rintro none ⟨a, b⟩ edge target
    obtain ⟨⟨p, c⟩, link, drawn, rfl, rfl⟩ := (mem_edges_iff distinct).1 edge
    obtain ⟨parent, child⟩ := Tree.mem_links.1 link
    have same : c = o := Tree.occurrence_unique distinct
      (Tree.mem_occurrences.2 (.inr ⟨p, parent, child⟩)) member (of_decide_eq_true target)
    rw [same] at child drawn
    exact none p parent child drawn

/-- A node that is shown has no edge into it exactly if it is the start or its parent is left out. -/
theorem edgesInto_eq_nil_iff {o : Occurrence} (member : o ∈ start.occurrences)
    (shown : o.Shown excluded) :
    (ofTree excluded start).edgesInto o.uid = [] ↔
      o.above = [] ∨ ∃ parent, o.above.getLast? = some parent ∧ parent.kind ∈ excluded := by
  have last : ∀ p : Occurrence, o ∈ p.children → o.above.getLast? = some p.resource := by
    intro p child
    rw [Occurrence.above_child child, List.getLast?_concat]
  rw [edgesInto_eq_nil_iff_links distinct member]
  constructor
  · intro none
    rcases Tree.mem_occurrences.1 member with rfl | ⟨p, parent, child⟩
    · exact .inl rfl
    · refine .inr ⟨p.resource, last p child, Classical.byContradiction fun kept => ?_⟩
      exact none p parent child (drawn_of_child child shown kept)
  · rintro (root | ⟨parent, above, left⟩) p _ child drawn
    · exact Occurrence.above_child_ne_nil child root
    · rw [last p child] at above
      cases above
      exact drawn.1.1 left

end Distinct

/-- The graph of a subtree without repeated uids has the nodes that are shown, in pre-order, and the
edges from parents to children that are both shown, unless the parent is an application below the
start. The edges form a forest, and only the start and the children of what is left out have no edge
into them. -/
theorem ofTree_of_distinct {start : Tree} (distinct : start.uids.Nodup) (excluded : List String) :
    let p := ofTree excluded start
    p.root = start.uid ∧
      p.nodes = (start.occurrences.filter fun o => o.Shown excluded).map
        (fun o => .ofResource o.resource) ∧
      p.edges = (start.links.filter fun link => Drawn excluded link).map
        (fun link => { source := link.1.uid, target := link.2.uid }) ∧
      IsForest p.edges ∧
      ∀ o ∈ start.occurrences, o.Shown excluded →
        (p.edgesInto o.uid = [] ↔
          o.above = [] ∨ ∃ parent, o.above.getLast? = some parent ∧ parent.kind ∈ excluded) := by
  obtain ⟨nodes, edges⟩ := ofTree_nodes_edges distinct
  rw [edgesOf_occurrences] at edges
  exact ⟨ofTree_root excluded start, nodes, edges, isForest_ofTree distinct,
    fun o member shown => edgesInto_eq_nil_iff distinct member shown⟩

/-- Applications below a root, one of a kind that is left out, and a role with a resource below it. -/
def landscape : Tree :=
  .node { Resource.placeholder with uid := "root", kind := "Kustomization" }
    [.node { Resource.placeholder with uid := "apps", kind := "Kustomization" }
        [.node { Resource.placeholder with uid := "web", kind := "Deployment" } []],
      .node { Resource.placeholder with uid := "chart", kind := "HelmRelease" }
        [.node { Resource.placeholder with uid := "pod", kind := "Pod" } []],
      .node { Resource.placeholder with uid := "role", kind := "ClusterRole" }
        [.node { Resource.placeholder with uid := "config", kind := "ConfigMap" }
          [.node { Resource.placeholder with uid := "entry", kind := "ConfigMap" } []]]]

/-- A tree with an excluded release in it, whose pod has no incoming edge. -/
theorem ofTree_of_distinct_landscape :
    let p := ofTree ["ClusterRole", "HelmRelease"] landscape
    landscape.uids.Nodup ∧
      p.nodes.map (·.id) = ["root", "apps", "pod", "config", "entry"] ∧
      p.edges = [{ source := "root", target := "apps" }, { source := "config", target := "entry" }] ∧
      IsForest p.edges ∧ p.edgesInto "pod" = [] := by
  intro p
  have distinct : landscape.uids.Nodup := by decide
  obtain ⟨-, nodes, edges, forest, into⟩ :=
    ofTree_of_distinct distinct ["ClusterRole", "HelmRelease"]
  refine ⟨distinct, ?_, ?_, forest, ?_⟩
  · rw [nodes]
    decide
  · rw [edges]
    decide
  · let chart : Tree := .node { Resource.placeholder with uid := "chart", kind := "HelmRelease" }
      [.node { Resource.placeholder with uid := "pod", kind := "Pod" } []]
    let pod : Occurrence :=
      { above := [landscape.resource, chart.resource]
        tree := .node { Resource.placeholder with uid := "pod", kind := "Pod" } [] }
    have member : pod ∈ landscape.occurrences := List.mem_of_getElem? (i := 4) rfl
    exact (into pod member (by decide)).2 (.inr ⟨chart.resource, rfl, by decide⟩)

end Projection

end ResourceTree
