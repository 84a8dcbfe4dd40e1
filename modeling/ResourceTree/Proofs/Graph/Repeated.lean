import ResourceTree.Proofs.Graph.Collapse

/-!
# Graphs of trees with repeated uids

A uid may stand at several places, and then only one of its occurrences is emitted, the one that the
walk comes to first. `emitted` lists these occurrences by recursion over the tree, with the uids so far
passed on from sibling to sibling. An edge is drawn when its source is emitted, before its target has
been visited, and gives way when another parent draws one into the same target. What an unfinished walk
owes is thus on its stack, which `Pending` says, and of the parents of a uid the last one emitted keeps
its edge.
-/

namespace ResourceTree
set_option autoImplicit false

namespace Tree

mutual

/-- The occurrences that a graph emits from a tree below some resources, if it has emitted some uids
before. -/
def emittedBelow (excluded seen : List String) (above : List Resource) : Tree → List Occurrence
  | node r cs =>
    if r.kind ∈ excluded ∨ r.uid ∈ seen then emittedBelowList excluded seen (above ++ [r]) cs
    else if (⟨above, node r cs⟩ : Occurrence).Expanded then
      ⟨above, node r cs⟩ :: emittedBelowList excluded (seen ++ [r.uid]) (above ++ [r]) cs
    else [⟨above, node r cs⟩]

def emittedBelowList (excluded seen : List String) (above : List Resource) :
    List Tree → List Occurrence
  | [] => []
  | t :: rest =>
    emittedBelow excluded seen above t ++
      emittedBelowList excluded
        (seen ++ (emittedBelow excluded seen above t).map Occurrence.uid) above rest

end

/-- The occurrences that the graph of a tree emits, in order. -/
def emitted (excluded : List String) (start : Tree) : List Occurrence :=
  start.emittedBelow excluded [] []

mutual

/-- Emitted occurrences are occurrences, in order. -/
theorem emittedBelow_sublist (excluded seen : List String) (above : List Resource) (t : Tree) :
    (t.emittedBelow excluded seen above).Sublist (t.occurrencesBelow above) := by
  cases t with
  | node r cs =>
    rw [emittedBelow, occurrencesBelow]
    split
    · exact (emittedBelowList_sublist excluded seen (above ++ [r]) cs).cons _
    · split
      · exact (emittedBelowList_sublist excluded (seen ++ [r.uid]) (above ++ [r]) cs).cons_cons _
      · exact (List.nil_sublist _).cons_cons _

theorem emittedBelowList_sublist (excluded seen : List String) (above : List Resource)
    (ts : List Tree) :
    (emittedBelowList excluded seen above ts).Sublist (occurrencesBelowList above ts) := by
  cases ts with
  | nil => exact List.nil_sublist _
  | cons t ts =>
    rw [emittedBelowList, occurrencesBelowList]
    exact (emittedBelow_sublist excluded seen above t).append
      (emittedBelowList_sublist excluded _ above ts)

end

/-- What is emitted stands in the tree, and is emitted in pre-order. -/
theorem emitted_sublist (excluded : List String) (start : Tree) :
    (start.emitted excluded).Sublist start.occurrences :=
  emittedBelow_sublist excluded [] [] start

end Tree

namespace Occurrence

/-- The occurrences that a graph emits from a stack, if it has emitted some uids before. -/
def emittedOf (excluded seen : List String) : List Occurrence → List Occurrence
  | [] => []
  | o :: rest =>
    o.tree.emittedBelow excluded seen o.above ++
      emittedOf excluded (seen ++ (o.tree.emittedBelow excluded seen o.above).map uid) rest

/-- The occurrence draws an edge into a uid: it does not hide its children, and one of them, of a kind
that is not left out, has the uid. -/
def Feeds (excluded : List String) (target : String) (o : Occurrence) : Prop :=
  o.Expanded ∧ ∃ c ∈ o.children, c.uid = target ∧ c.resource.kind ∉ excluded

instance (excluded : List String) (target : String) (o : Occurrence) :
    Decidable (o.Feeds excluded target) :=
  inferInstanceAs
    (Decidable (o.Expanded ∧ ∃ c ∈ o.children, c.uid = target ∧ c.resource.kind ∉ excluded))

/-- The edges that an occurrence draws when it is emitted. -/
def outgoing (excluded : List String) (o : Occurrence) : List Edge :=
  if o.Expanded then
    (o.children.filter fun c => c.resource.kind ∉ excluded).map
      fun c => { source := o.uid, target := c.uid }
  else []

variable {excluded : List String} {o : Occurrence}

/-! ## Emitting from a stack -/

/-- What is emitted later depends on what was emitted before. -/
theorem emittedOf_append (seen : List String) (os os' : List Occurrence) :
    emittedOf excluded seen (os ++ os') =
      emittedOf excluded seen os ++
        emittedOf excluded (seen ++ (emittedOf excluded seen os).map uid) os' := by
  induction os generalizing seen with
  | nil => rw [emittedOf, List.nil_append, List.nil_append, List.map_nil, List.append_nil]
  | cons o os ih =>
    rw [List.cons_append, emittedOf, ih, emittedOf, List.append_assoc, List.map_append,
      List.append_assoc]

/-- The children on a stack are emitted like those in a tree. -/
theorem emittedOf_map (seen : List String) (above : List Resource) (ts : List Tree) :
    emittedOf excluded seen (ts.map (⟨above, ·⟩)) =
      Tree.emittedBelowList excluded seen above ts := by
  induction ts generalizing seen with
  | nil => rfl
  | cons t ts ih => rw [List.map_cons, emittedOf, ih, Tree.emittedBelowList]

/-- What one occurrence adds: nothing of its own if it is passed, and nothing of its children if it
hides them. -/
theorem emittedBelow_eq (seen : List String) (o : Occurrence) :
    o.tree.emittedBelow excluded seen o.above =
      if o.resource.kind ∈ excluded ∨ o.uid ∈ seen then emittedOf excluded seen o.children
      else if o.Expanded then o :: emittedOf excluded (seen ++ [o.uid]) o.children
      else [o] := by
  rw [children, emittedOf_map, emittedOf_map]
  obtain ⟨above, t⟩ := o
  cases t with
  | node r cs =>
    rw [Tree.emittedBelow]
    rfl

/-- An occurrence that is excluded or seen is passed over, and its children come next. -/
theorem emittedOf_passed {seen : List String} (passed : o.resource.kind ∈ excluded ∨ o.uid ∈ seen)
    (rest : List Occurrence) :
    emittedOf excluded seen (o :: rest) = emittedOf excluded seen (o.children ++ rest) := by
  rw [emittedOf, emittedBelow_eq, if_pos passed, emittedOf_append]

/-- An occurrence that is expanded is emitted, and its children come next. -/
theorem emittedOf_expanded {seen : List String} (kept : o.resource.kind ∉ excluded)
    (fresh : o.uid ∉ seen) (expanded : o.Expanded) (rest : List Occurrence) :
    emittedOf excluded seen (o :: rest) =
      o :: emittedOf excluded (seen ++ [o.uid]) (o.children ++ rest) := by
  rw [emittedOf, emittedBelow_eq, if_neg (not_or.2 ⟨kept, fresh⟩), if_pos expanded, emittedOf_append,
    List.cons_append, List.map_cons, List.append_assoc, List.singleton_append]

/-- An occurrence that is collapsed is emitted without its children. -/
theorem emittedOf_collapsed {seen : List String} (kept : o.resource.kind ∉ excluded)
    (fresh : o.uid ∉ seen) (collapsed : ¬ o.Expanded) (rest : List Occurrence) :
    emittedOf excluded seen (o :: rest) = o :: emittedOf excluded (seen ++ [o.uid]) rest := by
  rw [emittedOf, emittedBelow_eq, if_neg (not_or.2 ⟨kept, fresh⟩), if_neg collapsed]
  rfl

/-! ## Edges into a uid -/

/-- An occurrence that is expanded has an edge to each of its children that are not excluded. -/
theorem mem_outgoing {e : Edge} :
    e ∈ o.outgoing excluded ↔
      o.Expanded ∧ ∃ c ∈ o.children, c.resource.kind ∉ excluded ∧
        e = { source := o.uid, target := c.uid } := by
  rw [outgoing]
  split
  · next expanded =>
    simp only [List.mem_map, List.mem_filter, decide_eq_true_eq, expanded, true_and, and_assoc]
    exact exists_congr fun c => and_congr_right fun _ => and_congr_right fun _ => eq_comm
  · next collapsed => exact iff_of_false List.not_mem_nil fun both => collapsed both.1

/-- All edges of an occurrence into a uid are one and the same. -/
theorem getLast?_outgoing (o : Occurrence) (target : String) :
    ((o.outgoing excluded).filter (·.target = target)).getLast? =
      if o.Feeds excluded target then some { source := o.uid, target } else none := by
  split
  · next feeds =>
    obtain ⟨expanded, c, child, rfl, kept⟩ := feeds
    have drawn : ({ source := o.uid, target := c.uid } : Edge) ∈
        (o.outgoing excluded).filter (·.target = c.uid) :=
      List.mem_filter.2 ⟨mem_outgoing.2 ⟨expanded, c, child, kept, rfl⟩, decide_eq_true rfl⟩
    obtain ⟨e, last⟩ := Option.ne_none_iff_exists'.1
      (mt List.getLast?_eq_none_iff.1 (List.ne_nil_of_mem drawn))
    obtain ⟨member, target⟩ := List.mem_filter.1 (List.mem_of_getLast? last)
    obtain ⟨-, c', -, -, rfl⟩ := mem_outgoing.1 member
    rw [last, ← of_decide_eq_true target]
  · next starves =>
    rw [List.getLast?_eq_none_iff, List.filter_eq_nil_iff]
    intro e member target
    obtain ⟨expanded, c, child, kept, rfl⟩ := mem_outgoing.1 member
    exact starves ⟨expanded, c, child, of_decide_eq_true target, kept⟩

/-- The last edge into a uid comes from the last occurrence that draws one. -/
theorem getLast?_flatMap_outgoing (os : List Occurrence) (target : String) :
    ((os.flatMap (outgoing excluded)).filter (·.target = target)).getLast? =
      (os.filter fun o => o.Feeds excluded target).getLast?.map
        fun o => { source := o.uid, target } := by
  induction os with
  | nil => rfl
  | cons o os ih =>
    rw [List.flatMap_cons, List.filter_append, List.getLast?_append, ih, getLast?_outgoing,
      List.filter_cons]
    by_cases feeds : o.Feeds excluded target
    · rw [if_pos feeds, if_pos (decide_eq_true feeds), List.getLast?_cons]
      cases (os.filter fun o => o.Feeds excluded target).getLast? with
      | none => rfl
      | some o' => rfl
    · rw [if_neg feeds, if_neg fun drawn => feeds (of_decide_eq_true drawn), Option.or_none]

end Occurrence

namespace Projection

open Occurrence (emittedOf outgoing)

variable {excluded : List String}

/-! ## Attaching edges -/

/-- Attaching edges brings in no others. -/
theorem mem_foldl_attach {edges new : List Edge} {e : Edge} (member : e ∈ new.foldl attach edges) :
    e ∈ edges ∨ e ∈ new := by
  induction new generalizing edges with
  | nil => exact .inl member
  | cons e' new ih =>
    rcases ih member with attached | later
    · rcases List.mem_append.1 attached with before | here
      · exact .inl (List.mem_of_mem_filter before)
      · exact .inr (List.mem_cons.2 (.inl (List.mem_singleton.1 here)))
    · exact .inr (List.mem_cons_of_mem e' later)

/-- An edge takes the place of the one that led to its target. -/
theorem filter_attach (edges : List Edge) (e : Edge) (uid : String) :
    (attach edges e).filter (·.target = uid) =
      if e.target = uid then [e] else edges.filter (·.target = uid) := by
  rw [attach, List.filter_append, List.filter_filter]
  by_cases into : e.target = uid
  · subst into
    simp
  · have kept : ∀ e' ∈ edges, (decide (e'.target = uid) && decide (e'.target ≠ e.target)) =
        decide (e'.target = uid) := by
      intro e' _
      by_cases there : e'.target = uid
      · simp [there, Ne.symm into]
      · simp [there]
    rw [List.filter_congr kept]
    simp [into]

/-- Of the edges into a uid that are attached one after the other, the last one stays. -/
theorem filter_foldl_attach (edges new : List Edge) (uid : String) :
    (new.foldl attach edges).filter (·.target = uid) =
      ((new.filter (·.target = uid)).getLast?.map ([·])).getD (edges.filter (·.target = uid)) := by
  induction new generalizing edges with
  | nil => rfl
  | cons e new ih =>
    rw [List.foldl_cons, ih, filter_attach, List.filter_cons]
    by_cases into : e.target = uid
    · rw [if_pos into, if_pos (decide_eq_true into), List.getLast?_cons]
      cases (new.filter (·.target = uid)).getLast? with
      | none => rfl
      | some e' => rfl
    · rw [if_neg into, if_neg fun there => into (of_decide_eq_true there)]

/-- The edges of a node are attached one after the other. -/
theorem attachChildren_outgoing {o : Occurrence} (expanded : o.Expanded) (edges : List Edge) :
    attachChildren excluded edges o.tree = (outgoing excluded o).foldl attach edges := by
  have kept : o.tree.children.filter
      ((fun c : Occurrence => decide (c.resource.kind ∉ excluded)) ∘ (⟨o.above ++ [o.resource], ·⟩)) =
      o.tree.children.filter fun c => !excluded.contains c.resource.kind :=
    List.filter_congr fun c _ => by
      rw [Bool.eq_iff_iff, Bool.not_eq_true', ← Bool.not_eq_true, List.contains_iff_mem]
      exact decide_eq_true_iff
  rw [attachChildren, outgoing, if_pos expanded, Occurrence.children, List.filter_map, List.map_map,
    kept]
  rfl

/-! ## The walk -/

/-- A graph contains the uids of its nodes. -/
theorem containsNode_iff {p : Projection} {uid : String} :
    p.containsNode uid = true ↔ uid ∈ p.nodes.map (·.id) := by
  simp [containsNode, List.any_eq_true]

/-- What a walk with a rest of its stack has emitted: it has made nodes and edges of these occurrences,
and what is still to come from the stack completes the list. -/
structure Emitting (excluded : List String) (start : Tree) (p : Projection)
    (rest os : List Occurrence) : Prop where
  nodes : p.nodes = os.map fun o => .ofResource o.resource
  edges : p.edges = (os.flatMap (outgoing excluded)).foldl attach []
  all : os ++ emittedOf excluded (os.map Occurrence.uid) rest = start.emitted excluded

/-- What holds of a walk with a rest of its stack: the target of an edge has a node or is still on the
stack. -/
structure Pending (excluded : List String) (p : Projection) (rest : List Occurrence) : Prop where
  distinct : (p.nodes.map (·.id)).Nodup
  kept : ∀ n ∈ p.nodes, n.kind ∉ excluded
  source : ∀ e ∈ p.edges, p.containsNode e.source = true
  target : ∀ e ∈ p.edges, p.containsNode e.target = true ∨
    ∃ o ∈ rest, o.uid = e.target ∧ o.resource.kind ∉ excluded

section Step

variable {start : Tree} {p : Projection} {o : Occurrence} {rest os : List Occurrence}

theorem Emitting.containsNode_iff (emitting : Emitting excluded start p rest os) {uid : String} :
    p.containsNode uid = true ↔ uid ∈ os.map Occurrence.uid := by
  rw [Projection.containsNode_iff, emitting.nodes, List.map_map]
  rfl

/-- One visit emits its occurrence or passes it over. -/
theorem Emitting.step (emitting : Emitting excluded start p (o :: rest) os) :
    ∃ os', Emitting excluded start (visit excluded p o.tree o.depth).1
      (o.successors (visit excluded p o.tree o.depth).2 ++ rest) os' := by
  have all := emitting.all
  by_cases passed : o.resource.kind ∈ excluded ∨ p.containsNode o.uid = true
  · rw [visit_passed passed]
    rw [emitting.containsNode_iff] at passed
    rw [Occurrence.emittedOf_passed passed] at all
    exact ⟨os, emitting.nodes, emitting.edges, all⟩
  · obtain ⟨kept, absent⟩ := not_or.1 passed
    have fresh : o.uid ∉ os.map Occurrence.uid := mt emitting.containsNode_iff.2 absent
    have nodes : p.nodes ++ [.ofResource o.resource] =
        (os ++ [o]).map fun o => .ofResource o.resource := by
      rw [emitting.nodes, List.map_append, List.map_singleton]
    refine ⟨os ++ [o], ?_⟩
    rw [visit_fresh kept (Bool.eq_false_iff.2 absent)]
    by_cases expanded : o.Expanded
    · rw [Occurrence.emittedOf_expanded kept fresh expanded, ← List.singleton_append,
        ← List.append_assoc] at all
      rw [if_pos expanded, attachChildren_outgoing expanded, emitting.edges, ← List.foldl_append]
      refine ⟨nodes, ?_, ?_⟩
      · rw [List.flatMap_append, List.flatMap_singleton]
      · rw [List.map_append]
        exact all
    · rw [Occurrence.emittedOf_collapsed kept fresh expanded, ← List.singleton_append,
        ← List.append_assoc] at all
      rw [if_neg expanded]
      refine ⟨nodes, ?_, ?_⟩
      · rw [List.flatMap_append, List.flatMap_singleton, outgoing, if_neg expanded, List.append_nil]
        exact emitting.edges
      · rw [List.map_append]
        exact all

theorem containsNode_append_iff {n : GraphNode} {edges : List Edge} {uid : String} :
    { p with nodes := p.nodes ++ [n], edges }.containsNode uid = true ↔
      p.containsNode uid = true ∨ n.id = uid := by
  simp [containsNode]

/-- A node that is emitted pays what was owed for it, and then owes its children if it draws edges into
them. -/
theorem Pending.emit (pending : Pending excluded p (o :: rest)) (kept : o.resource.kind ∉ excluded)
    (fresh : p.containsNode o.uid = false) {edges : List Edge} {rest' : List Occurrence}
    (drawn : ∀ e ∈ edges, e ∈ p.edges ∨
      e.source = o.uid ∧ ∃ c ∈ rest', c.uid = e.target ∧ c.resource.kind ∉ excluded)
    (waiting : ∀ c ∈ rest, c ∈ rest') :
    Pending excluded { p with nodes := p.nodes ++ [.ofResource o.resource], edges } rest' := by
  have own : (GraphNode.ofResource o.resource).id = o.uid := rfl
  refine ⟨?_, ?_, fun e member => ?_, fun e member => ?_⟩
  · have absent : o.uid ∉ p.nodes.map (·.id) := by
      rw [← containsNode_iff, fresh]
      exact Bool.false_ne_true
    rw [List.map_append, List.map_singleton, own, List.nodup_append]
    refine ⟨pending.distinct, List.nodup_singleton _, ?_⟩
    intro id there id' here same
    exact absent (List.mem_singleton.1 here ▸ same ▸ there)
  · intro n member
    rcases List.mem_append.1 member with before | here
    · exact pending.kept n before
    · rw [List.mem_singleton.1 here]
      exact kept
  · rw [containsNode_append_iff, own]
    rcases drawn e member with before | ⟨source, -⟩
    · exact .inl (pending.source e before)
    · exact .inr source.symm
  · rw [containsNode_append_iff, own]
    rcases drawn e member with before | ⟨-, child⟩
    · rcases pending.target e before with there | ⟨c, stacked, named, left⟩
      · exact .inl (.inl there)
      · rcases List.mem_cons.1 stacked with rfl | later
        · exact .inl (.inr named)
        · exact .inr ⟨c, waiting c later, named, left⟩
    · exact .inr child

/-- One visit keeps every edge between nodes, or to an occurrence that is still to come. -/
theorem Pending.step (pending : Pending excluded p (o :: rest)) :
    Pending excluded (visit excluded p o.tree o.depth).1
      (o.successors (visit excluded p o.tree o.depth).2 ++ rest) := by
  by_cases passed : o.resource.kind ∈ excluded ∨ p.containsNode o.uid = true
  · rw [visit_passed passed]
    refine ⟨pending.distinct, pending.kept, pending.source, fun e member => ?_⟩
    rcases pending.target e member with there | ⟨c, stacked, named, left⟩
    · exact .inl there
    · rcases List.mem_cons.1 stacked with rfl | later
      · exact .inl (named ▸ passed.resolve_left left)
      · exact .inr ⟨c, List.mem_append_right _ later, named, left⟩
  · obtain ⟨kept, absent⟩ := not_or.1 passed
    have fresh : p.containsNode o.uid = false := Bool.eq_false_iff.2 absent
    rw [visit_fresh kept fresh]
    by_cases expanded : o.Expanded
    · rw [if_pos expanded, attachChildren_outgoing expanded]
      refine pending.emit kept fresh (fun e member => ?_) fun c => List.mem_append_right _
      rcases mem_foldl_attach member with before | new
      · exact .inl before
      · obtain ⟨-, c, child, left, rfl⟩ := Occurrence.mem_outgoing.1 new
        exact .inr ⟨rfl, c, List.mem_append_left _ child, rfl, left⟩
    · rw [if_neg expanded]
      exact pending.emit kept fresh (fun e before => .inl before) fun c => id

end Step

/-! ## The whole walk -/

variable (excluded) (start : Tree)

/-- When the walk is over, the emitted occurrences are the nodes. -/
theorem emitting_ofTree : Emitting excluded start (ofTree excluded start) [] (start.emitted excluded) := by
  have begin : Emitting excluded start { root := start.uid } [⟨[], start⟩] [] := by
    refine ⟨rfl, rfl, ?_⟩
    rw [List.nil_append, Occurrence.emittedOf, Occurrence.emittedOf, List.append_nil]
    rfl
  obtain ⟨os, finish⟩ := Tree.walkStack_induction (visit excluded) { root := start.uid } [⟨[], start⟩]
    (I := fun p rest => ∃ os, Emitting excluded start p rest os) ⟨[], begin⟩
    fun p o rest _ ⟨os, emitting⟩ => emitting.step
  have all : os = start.emitted excluded := by
    rw [← finish.all, Occurrence.emittedOf, List.append_nil]
  exact all ▸ finish

/-- When the walk is over, every edge leads to a node. -/
theorem pending_ofTree : Pending excluded (ofTree excluded start) [] := by
  refine Tree.walkStack_induction (visit excluded) { root := start.uid } [⟨[], start⟩]
    ⟨List.nodup_nil, ?_, ?_, ?_⟩ fun p o rest _ pending => pending.step
  · exact List.forall_mem_nil _
  · exact List.forall_mem_nil _
  · exact List.forall_mem_nil _

/-- Of the sources that feed a uid the last one has the edge. -/
theorem edgesInto_ofTree (uid : String) :
    (ofTree excluded start).edgesInto uid =
      ((start.emitted excluded).filter fun o => o.Feeds excluded uid).getLast?.toList.map
        fun o => { source := o.uid, target := uid } := by
  rw [edgesInto, (emitting_ofTree excluded start).edges, filter_foldl_attach,
    Occurrence.getLast?_flatMap_outgoing]
  cases ((start.emitted excluded).filter fun o => o.Feeds excluded uid).getLast? with
  | none => rfl
  | some o => rfl

/-- No two edges lead to one target. -/
theorem nodup_targets : ((ofTree excluded start).edges.map (·.target)).Nodup := by
  rw [List.nodup_iff_count]
  intro uid
  have into : (ofTree excluded start).edgesInto uid =
      (ofTree excluded start).edges.filter (·.target = uid) := rfl
  have count : ((ofTree excluded start).edges.map (·.target)).count uid =
      ((ofTree excluded start).edgesInto uid).length := by
    rw [into, ← List.countP_eq_length_filter, List.count, List.countP_map]
    rfl
  rw [count, edgesInto_ofTree, List.length_map]
  cases ((start.emitted excluded).filter fun o => o.Feeds excluded uid).getLast? with
  | none => exact Nat.zero_le 1
  | some o => exact Nat.le_refl 1

/-- The graph of any tree, whatever uids are repeated in it: its nodes are those of the emitted
occurrences, no id twice and none of a kind that is left out. Edges go from node to node, at most one
into each. There is one into a uid exactly if an emitted occurrence feeds it, and it then comes from the
last of these. -/
theorem ofTree_emitted :
    (start.emitted excluded).Sublist start.occurrences ∧
      (ofTree excluded start).nodes =
        (start.emitted excluded).map (fun o => .ofResource o.resource) ∧
      ((ofTree excluded start).nodes.map (·.id)).Nodup ∧
      (∀ n ∈ (ofTree excluded start).nodes, n.kind ∉ excluded) ∧
      (∀ e ∈ (ofTree excluded start).edges,
        (ofTree excluded start).containsNode e.source = true ∧
          (ofTree excluded start).containsNode e.target = true) ∧
      ((ofTree excluded start).edges.map (·.target)).Nodup ∧
      ∀ uid, (ofTree excluded start).edgesInto uid =
        ((start.emitted excluded).filter fun o => o.Feeds excluded uid).getLast?.toList.map
          fun o => { source := o.uid, target := uid } := by
  have pending := pending_ofTree excluded start
  refine ⟨start.emitted_sublist excluded, (emitting_ofTree excluded start).nodes, pending.distinct,
    pending.kept, fun e member => ⟨pending.source e member, ?_⟩, nodup_targets excluded start,
    edgesInto_ofTree excluded start⟩
  rcases pending.target e member with there | ⟨o, owed, -⟩
  · exact there
  · cases owed

/-- A pod that stands below two workloads. -/
def sharedPod : Tree :=
  let pod : Tree := .node { Resource.placeholder with uid := "pod", kind := "Pod" } []
  .node { Resource.placeholder with uid := "root", kind := "Kustomization" }
    [.node { Resource.placeholder with uid := "blue", kind := "Deployment" } [pod],
      .node { Resource.placeholder with uid := "green", kind := "Deployment" } [pod]]

example : (ofTree [] sharedPod).nodes.map (·.id) = ["root", "blue", "pod", "green"] ∧
    (ofTree [] sharedPod).edgesInto "pod" = [{ source := "green", target := "pod" }] := by
  decide +kernel

end Projection

end ResourceTree
