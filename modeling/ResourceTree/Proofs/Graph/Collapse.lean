import Mathlib.Data.List.Flatten
import ResourceTree.Proofs.Graph.Shown

/-!
# Nested applications in graphs

Where uids are repeated, the same application can be met again. The walk collapses an application
that it adds, but one whose uid has been added before is passed like any other node, and what stands
below it is shown. `reentered` are the applications where this happens; all other nodes of a graph
have an occurrence outside of nested applications.
-/

namespace ResourceTree
set_option autoImplicit false

/-- A uid stands somewhere with no application that is shown strictly between it and the start. -/
def Tree.HasOpen (excluded : List String) (start : Tree) (uid : String) : Prop :=
  ∃ o ∈ start.occurrences, o.uid = uid ∧ o.Open excluded

instance (excluded : List String) (start : Tree) (uid : String) :
    Decidable (start.HasOpen excluded uid) :=
  inferInstanceAs (Decidable (∃ o ∈ start.occurrences, o.uid = uid ∧ o.Open excluded))

namespace Projection

/-- The applications below the start that the walk comes to when their uid has been added. -/
def reentered (excluded : List String) (start : Tree) : List Tree :=
  ((Tree.showings (visit excluded) { root := start.uid } [(start, 0)]).filter
    fun (p, t, depth) => 0 < depth ∧ t.resource.Bounds excluded ∧ p.containsNode t.uid).map (·.2.1)

/-- A tree that stands below the start brings a uid into the graph, wherever the walk comes to it:
the uid is not shut off by an application. -/
inductive Surfaces (excluded : List String) (uid : String) : Tree → Prop where
  | here {t : Tree} (named : t.uid = uid) (kept : t.resource.kind ∉ excluded) :
      Surfaces excluded uid t
  | deeper {t c : Tree} (passable : ¬ t.resource.Bounds excluded) (child : c ∈ t.children)
      (inside : Surfaces excluded uid c) : Surfaces excluded uid t

variable {excluded : List String}

theorem surfaces_of_shown {o x : Occurrence} (nested : o.above ≠ []) (inside : x ∈ o.within)
    (shown : x.Shown excluded) : Surfaces excluded x.uid o.tree := by
  induction o using Occurrence.induction with
  | step o ih =>
    rcases Occurrence.mem_within.1 inside with rfl | ⟨c, child, inside⟩
    · exact .here rfl shown.1
    · have below : x ∈ o.children.flatMap Occurrence.within :=
        List.mem_flatMap.2 ⟨c, child, inside⟩
      refine .deeper (fun bounds => ?_) (Occurrence.tree_child child)
        (ih c child (Occurrence.above_child_ne_nil child) inside)
      exact Occurrence.not_open_below nested bounds below shown.2

/-! ## One step -/

section Step

variable {p : Projection} {o : Occurrence}

/-- A visit adds the node that it is shown, unless it is left out or has been added. -/
theorem visit_nodes :
    (visit excluded p o.tree o.depth).1.nodes =
      p.nodes ++
        if o.resource.kind ∉ excluded ∧ p.containsNode o.uid = false then [.ofResource o.resource]
        else [] := by
  by_cases passed : o.resource.kind ∈ excluded ∨ p.containsNode o.uid = true
  · have guard : ¬ (o.resource.kind ∉ excluded ∧ p.containsNode o.uid = false) := by
      rw [← Bool.not_eq_true, ← not_or]
      exact fun both => both passed
    rw [visit_passed passed, if_neg guard, List.append_nil]
  · obtain ⟨kept, fresh⟩ := not_or.1 passed
    rw [Bool.not_eq_true] at fresh
    have guard : o.resource.kind ∉ excluded ∧ p.containsNode o.uid = false := ⟨kept, fresh⟩
    rw [visit_fresh kept fresh, if_pos guard]
    split
    · rfl
    · rfl

theorem containsNode_visit {uid : String} (there : p.containsNode uid = true) :
    (visit excluded p o.tree o.depth).1.containsNode uid = true := by
  rw [containsNode, visit_nodes, List.any_append, Bool.or_eq_true]
  exact .inl there

theorem containsNode_visit_self (kept : o.resource.kind ∉ excluded) :
    (visit excluded p o.tree o.depth).1.containsNode o.uid = true := by
  cases there : p.containsNode o.uid with
  | true => exact containsNode_visit there
  | false =>
    rw [containsNode, visit_nodes, if_pos ⟨kept, there⟩, List.any_append, Bool.or_eq_true]
    exact .inr (List.any_eq_true.2 ⟨_, List.mem_singleton.2 rfl, decide_eq_true rfl⟩)

theorem mem_nodes_visit {n : GraphNode}
    (member : n ∈ (visit excluded p o.tree o.depth).1.nodes) :
    n ∈ p.nodes ∨ n.id = o.uid ∧ o.resource.kind ∉ excluded := by
  rw [visit_nodes, List.mem_append] at member
  rcases member with there | new
  · exact .inl there
  · split at new
    · next added =>
      rw [List.mem_singleton.1 new]
      exact .inr ⟨rfl, added.1⟩
    · cases new

/-- The walk goes on below every node that is no application of a kind that is shown. -/
theorem successors_visit (passable : ¬ o.resource.Bounds excluded) :
    o.successors (visit excluded p o.tree o.depth).2 = o.children := by
  by_cases passed : o.resource.kind ∈ excluded ∨ p.containsNode o.uid = true
  · rw [visit_passed passed]
    rfl
  · obtain ⟨kept, fresh⟩ := not_or.1 passed
    have expanded : o.Expanded := .inr fun boundary => passable ⟨boundary, kept⟩
    rw [visit_fresh kept (Bool.eq_false_iff.2 fresh), if_pos expanded]
    rfl

end Step

/-! ## What the walk brings in -/

variable {start : Tree}

/-- What a tree on the stack brings in is in the graph at the end. -/
theorem containsNode_of_surfaces {uid : String} {p : Projection} {stack : List Occurrence}
    {o : Occurrence} (member : o ∈ stack) (surfaces : Surfaces excluded uid o.tree) :
    (Tree.walkStack (visit excluded) p (stack.map Occurrence.entry)).containsNode uid = true := by
  have finish := Tree.walkStack_induction (visit excluded) p stack
    (I := fun p rest => p.containsNode uid = true ∨ ∃ o ∈ rest, Surfaces excluded uid o.tree)
    (.inr ⟨o, member, surfaces⟩) ?_
  · rcases finish with there | ⟨o, member, -⟩
    · exact there
    · cases member
  · rintro p o rest - (there | ⟨o', member, surfaces⟩)
    · exact .inl (containsNode_visit there)
    · rcases List.mem_cons.1 member with rfl | later
      · cases surfaces with
        | here named kept => exact .inl (named ▸ containsNode_visit_self kept)
        | deeper passable child inside =>
          rw [successors_visit passable]
          exact .inr ⟨_, List.mem_append_left _ (Occurrence.child_mem child), inside⟩
      · exact .inr ⟨o', List.mem_append_right _ later, surfaces⟩

/-- From a node that has been passed, with its children on the stack, all is brought in that the graph
of its own subtree shows. -/
theorem containsNode_of_passed {o x : Occurrence} {p : Projection} {rest : List Occurrence}
    (own : o.resource.kind ∉ excluded → p.containsNode o.uid = true)
    (inside : x ∈ Occurrence.within ⟨[], o.tree⟩) (shown : x.Shown excluded) :
    (Tree.walkStack (visit excluded) p ((o.children ++ rest).map Occurrence.entry)).containsNode
      x.uid = true := by
  rcases Occurrence.mem_within.1 inside with rfl | ⟨c, child, inside⟩
  · exact Tree.walkStack_induction (visit excluded) p (o.children ++ rest)
      (I := fun p _ => p.containsNode o.uid = true) (own shown.1)
      fun p o' rest _ there => containsNode_visit there
  · have surfaces := surfaces_of_shown (Occurrence.above_child_ne_nil child) inside shown
    obtain ⟨u, here, rfl⟩ := List.mem_map.1 child
    exact containsNode_of_surfaces (List.mem_append_left rest (Occurrence.child_mem here)) surfaces

/-- Every occurrence that is shown brings its node in. -/
theorem containsNode_of_shown {x : Occurrence} (inside : x ∈ start.occurrences)
    (shown : x.Shown excluded) : (ofTree excluded start).containsNode x.uid = true := by
  let o : Occurrence := ⟨[], start⟩
  let blank : Projection := { root := start.uid }
  have own : o.resource.kind ∉ excluded →
      (visit excluded blank o.tree o.depth).1.containsNode o.uid = true := containsNode_visit_self
  have passed : o.successors (visit excluded blank o.tree o.depth).2 = o.children := by
    by_cases left : o.resource.kind ∈ excluded
    · rw [visit_passed (.inl left)]
      rfl
    · rw [visit_fresh left rfl, if_pos (.inl rfl)]
      rfl
  have finish : ofTree excluded start =
      Tree.walkStack (visit excluded) (visit excluded blank o.tree o.depth).1
        ((o.children ++ []).map Occurrence.entry) := by
    rw [← passed]
    exact Tree.walkStack_cons blank o []
  rw [finish]
  exact containsNode_of_passed own inside shown

/-- An application that is reentered brings in all that its own graph shows. -/
theorem containsNode_of_reentered {t : Tree} (again : t ∈ reentered excluded start) {x : Occurrence}
    (inside : x ∈ t.occurrences) (shown : x.Shown excluded) :
    (ofTree excluded start).containsNode x.uid = true := by
  obtain ⟨⟨p, _, depth⟩, member, rfl⟩ := List.mem_map.1 again
  obtain ⟨showing, conditions⟩ := List.mem_filter.1 member
  obtain ⟨-, -, added⟩ := of_decide_eq_true conditions
  obtain ⟨o, rest, entry, resumed⟩ :=
    Tree.walkStack_of_showing [⟨[], start⟩] showing
  cases entry
  have finish : ofTree excluded start =
      Tree.walkStack (visit excluded) p ((o.children ++ rest).map Occurrence.entry) := by
    rw [Tree.walkStack_cons p, visit_passed (.inr added)] at resumed
    exact resumed
  rw [finish]
  exact containsNode_of_passed (fun _ => added) inside shown

/-- How an occurrence comes onto the stack: it is open, or open below an application that is
reentered. -/
def Entered (excluded : List String) (start : Tree) (o : Occurrence) : Prop :=
  (o ∈ start.occurrences ∧ o.Open excluded) ∨
    ∃ t ∈ reentered excluded start, ∃ x ∈ t.occurrences, x.tree = o.tree ∧ x.above ≠ [] ∧
      o.above ≠ [] ∧ x.Open excluded

theorem Entered.child {o c : Occurrence} (entered : Entered excluded start o)
    (child : c ∈ o.children) (passable : o.Expanded ∨ o.resource.kind ∈ excluded) :
    Entered excluded start c := by
  rcases entered with ⟨member, isOpen⟩ | ⟨t, again, x, inside, same, nested, below, isOpen⟩
  · exact .inl ⟨Tree.mem_occurrences.2 (.inr ⟨o, member, child⟩),
      Occurrence.open_of_child child isOpen passable⟩
  · have passable' : x.Expanded ∨ x.resource.kind ∈ excluded := by
      rw [Occurrence.Expanded, Occurrence.resource, same]
      exact passable.imp_left fun expanded => .inr (expanded.resolve_left below)
    obtain ⟨u, here, rfl⟩ := List.mem_map.1 child
    rw [← same] at here
    have child' := Occurrence.child_mem here
    exact .inr ⟨t, again, _, Tree.mem_occurrences.2 (.inr ⟨x, inside, child'⟩), rfl,
      Occurrence.above_child_ne_nil child', Occurrence.above_child_ne_nil child,
      Occurrence.open_of_child child' isOpen passable'⟩

theorem Entered.child_of_reentered {o c : Occurrence} (again : o.tree ∈ reentered excluded start)
    (child : c ∈ o.children) : Entered excluded start c := by
  obtain ⟨u, here, rfl⟩ := List.mem_map.1 child
  have child' := Occurrence.child_mem (o := ⟨[], o.tree⟩) here
  refine .inr ⟨o.tree, again, ⟨[o.resource], u⟩, ?_, rfl, List.cons_ne_nil _ _,
    Occurrence.above_child_ne_nil child, List.forall_mem_nil _⟩
  exact Tree.mem_occurrences.2 (.inr ⟨_, Occurrence.self_mem_within _, child'⟩)

/-- All that the walk goes on with below an occurrence has been entered if the occurrence has. -/
theorem Entered.successors {p : Projection} {o c : Occurrence} (entered : Entered excluded start o)
    (shown : (p, o.entry) ∈ Tree.showings (visit excluded) { root := start.uid } [(start, 0)])
    (successor : c ∈ o.successors (visit excluded p o.tree o.depth).2) :
    Entered excluded start c := by
  by_cases passable : o.Expanded ∨ o.resource.kind ∈ excluded
  · refine entered.child ?_ passable
    cases verdict : (visit excluded p o.tree o.depth).2 with
    | proceed => rwa [verdict] at successor
    | skipChildren =>
      rw [verdict] at successor
      cases successor
  · obtain ⟨collapsed, kept⟩ := not_or.1 passable
    obtain ⟨nested, boundary⟩ := not_or.1 collapsed
    cases added : p.containsNode o.uid with
    | false =>
      rw [visit_fresh kept added, if_neg collapsed] at successor
      cases successor
    | true =>
      rw [visit_passed (.inr added)] at successor
      refine .child_of_reentered (List.mem_map.2 ⟨_, List.mem_filter.2 ⟨shown, ?_⟩, rfl⟩) successor
      exact decide_eq_true
        ⟨List.length_pos_iff.2 nested, ⟨Classical.not_not.1 boundary, kept⟩, added⟩

theorem Entered.hasOpen {o : Occurrence} (entered : Entered excluded start o)
    (kept : o.resource.kind ∉ excluded)
    (elsewhere : ∀ t ∈ reentered excluded start, ∀ x ∈ t.occurrences, x.Shown excluded →
      start.HasOpen excluded x.uid) : start.HasOpen excluded o.uid := by
  rcases entered with ⟨member, isOpen⟩ | ⟨t, again, x, inside, same, -, -, isOpen⟩
  · exact ⟨o, member, rfl, isOpen⟩
  · have kept' : x.resource.kind ∉ excluded := by
      rw [Occurrence.resource, same]
      exact kept
    have there := elsewhere t again x inside ⟨kept', isOpen⟩
    rw [Occurrence.uid, same] at there
    exact there

/-! ## Applications that are met once -/

/-- What has been added and what is still within the stack together do not exceed the uids of the
start. -/
structure Accounted (start : Tree) (p : Projection) (rest : List Occurrence) : Prop where
  stack : ∀ o ∈ rest, o ∈ start.occurrences
  counted : ∀ uid, (p.nodes.map (·.id)).count uid +
    ((rest.flatMap Occurrence.within).map Occurrence.uid).count uid ≤ start.uids.count uid

theorem Accounted.visit {p : Projection} {o : Occurrence} {rest : List Occurrence}
    (accounted : Accounted start p (o :: rest)) :
    Accounted start (visit excluded p o.tree o.depth).1
      (o.successors (visit excluded p o.tree o.depth).2 ++ rest) := by
  have pushed : (o.successors (Projection.visit excluded p o.tree o.depth).2).Sublist o.children := by
    cases (Projection.visit excluded p o.tree o.depth).2 with
    | proceed => exact List.Sublist.refl _
    | skipChildren => exact List.nil_sublist _
  refine ⟨fun o' member => ?_, fun uid => ?_⟩
  · rcases List.mem_append.1 member with successor | later
    · exact Tree.mem_occurrences.2
        (.inr ⟨o, accounted.stack o List.mem_cons_self, pushed.subset successor⟩)
    · exact accounted.stack o' (List.mem_cons_of_mem _ later)
  · have counted := accounted.counted uid
    rw [flatMap_within_cons, List.map_cons, List.count_cons] at counted
    have within := (pushed.append_right rest).flatMap Occurrence.within
    have fewer := (within.map Occurrence.uid).count_le uid
    rw [visit_nodes, List.map_append, List.count_append]
    have added : (List.map (·.id)
        (if o.resource.kind ∉ excluded ∧ p.containsNode o.uid = false then
          [GraphNode.ofResource o.resource] else [])).count uid ≤ if o.uid == uid then 1 else 0 := by
      split
      · rw [List.map_singleton, List.count_singleton]
        exact Nat.le_refl _
      · exact Nat.zero_le _
    omega

/-- An application of which the uid occurs once is not come to again. -/
theorem reentered_eq_nil
    (once : ∀ o ∈ start.occurrences, o.above ≠ [] → o.resource.Bounds excluded →
      start.uids.count o.uid ≤ 1) : reentered excluded start = [] := by
  rw [reentered, List.map_eq_nil_iff, List.filter_eq_nil_iff]
  rintro ⟨p, shown⟩ showing conditions
  have begin : Accounted start { root := start.uid } [⟨[], start⟩] := by
    refine ⟨fun o member => ?_, fun uid => ?_⟩
    · rw [List.mem_singleton.1 member]
      exact Occurrence.self_mem_within _
    · rw [List.flatMap_singleton, Occurrence.map_uid_within]
      simp
  obtain ⟨o, rest, rfl, accounted⟩ := Tree.showings_induction [⟨[], start⟩] begin
    (fun p o rest accounted => accounted.visit) showing
  obtain ⟨nested, bounds, added⟩ := of_decide_eq_true conditions
  have single := once o (accounted.stack o List.mem_cons_self) (List.length_pos_iff.1 nested) bounds
  have counted := accounted.counted o.uid
  have earlier : 0 < (p.nodes.map (·.id)).count o.uid := by
    obtain ⟨n, member, named⟩ := List.any_eq_true.1 added
    exact List.count_pos_iff.2 (List.mem_map.2 ⟨n, member, of_decide_eq_true named⟩)
  rw [flatMap_within_cons, List.map_cons, List.count_cons_self] at counted
  omega

theorem hasOpen_nodes_iff (excluded : List String) (start : Tree) :
    (∀ n ∈ (ofTree excluded start).nodes, start.HasOpen excluded n.id) ↔
      ∀ t ∈ reentered excluded start, ∀ x ∈ t.occurrences, x.Shown excluded →
        start.HasOpen excluded x.uid := by
  constructor
  · intro outside t again x inside shown
    have added := containsNode_of_reentered again inside shown
    obtain ⟨n, member, named⟩ := List.any_eq_true.1 added
    rw [← of_decide_eq_true named]
    exact outside n member
  · intro elsewhere
    have finish := Tree.walkStack_induction (visit excluded) { root := start.uid } [⟨[], start⟩]
      (I := fun p rest => (∀ n ∈ p.nodes, start.HasOpen excluded n.id) ∧
        ∀ o ∈ rest, Entered excluded start o) ?_ ?_
    · exact finish.1
    · refine ⟨List.forall_mem_nil _, fun o member => ?_⟩
      rw [List.mem_singleton.1 member]
      exact .inl ⟨Occurrence.self_mem_within _, List.forall_mem_nil _⟩
    · rintro p o rest shown ⟨outside, entered⟩
      have here := entered o List.mem_cons_self
      refine ⟨fun n member => ?_, fun o' member => ?_⟩
      · rcases mem_nodes_visit member with there | ⟨named, kept⟩
        · exact outside n there
        · rw [named]
          exact here.hasOpen kept elsewhere
      · rcases List.mem_append.1 member with successor | later
        · exact here.successors shown successor
        · exact entered o' (List.mem_cons_of_mem _ later)

/-- All that is shown is in the graph. Every node of the graph has an occurrence outside of the nested
applications exactly if this holds of what those applications show that the walk comes to again after
it has added them. It holds in particular if none of these applications occurs twice. -/
theorem collapsed_iff (excluded : List String) (start : Tree) :
    (∀ o ∈ start.occurrences, o.Shown excluded →
      (ofTree excluded start).containsNode o.uid = true) ∧
    ((∀ n ∈ (ofTree excluded start).nodes, start.HasOpen excluded n.id) ↔
      ∀ t ∈ reentered excluded start, ∀ x ∈ t.occurrences, x.Shown excluded →
        start.HasOpen excluded x.uid) ∧
    ((∀ o ∈ start.occurrences, o.above ≠ [] → o.resource.Bounds excluded →
        start.uids.count o.uid ≤ 1) →
      ∀ n ∈ (ofTree excluded start).nodes, start.HasOpen excluded n.id) := by
  refine ⟨fun o inside shown => containsNode_of_shown inside shown,
    hasOpen_nodes_iff excluded start, fun once => (hasOpen_nodes_iff excluded start).2 ?_⟩
  rw [reentered_eq_nil once]
  exact List.forall_mem_nil _

/-- A release that stands below two nodes, with a deployment of its own. -/
def sharedRelease : Tree :=
  let release : Tree := .node { Resource.placeholder with uid := "release", kind := "HelmRelease" }
    [.node { Resource.placeholder with uid := "web", kind := "Deployment" } []]
  .node { Resource.placeholder with uid := "root", kind := "Kustomization" }
    [.node { Resource.placeholder with uid := "blue", kind := "ConfigMap" } [release],
      .node { Resource.placeholder with uid := "green", kind := "ConfigMap" } [release]]

/-- The deployment stands below the release only, and yet it is in the graph. -/
theorem release_opened_again :
    ¬ ∀ n ∈ (ofTree [] sharedRelease).nodes, sharedRelease.HasOpen [] n.id := by
  decide +kernel

end Projection

end ResourceTree
