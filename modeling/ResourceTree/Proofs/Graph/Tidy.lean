import Mathlib.Algebra.Order.BigOperators.Group.List
import ResourceTree.Proofs.Graph.Boxes
import ResourceTree.Proofs.Graph.Repeated
import ResourceTree.Proofs.Graph.Turns

/-!
# Tidy layouts

The graph of a subtree without repeated uids is a forest. Where nothing below a node has been visited
when its turn comes, a run places the node, then all that its edges lead to, and so on from the next
node: it follows the depth-first order of the forest (`Unfolds`). What one node adds and what two runs
add one after the other is said by `Arranged`, which gives the layout of a whole forest (`Tidy`).
-/

namespace ResourceTree.Layout
set_option autoImplicit false

variable {edges : List Edge} {ids : List String}

/-! ## Depth-first order -/

/-- The depth-first order from some nodes: a node, what its edges lead to in their order, and then the
nodes after it. -/
inductive Unfolds (edges : List Edge) : List String → List String → Prop where
  | nil : Unfolds edges [] []
  | cons {id : String} {rest below after : List String}
      (children : Unfolds edges (childrenOf edges id) below) (others : Unfolds edges rest after) :
      Unfolds edges (id :: rest) (id :: below ++ after)

/-- The nodes that no edge leaves. -/
def leaves (edges : List Edge) (order : List String) : List String :=
  order.filter fun id => childrenOf edges id = []

theorem leaves_append (order later : List String) :
    leaves edges (order ++ later) = leaves edges order ++ leaves edges later :=
  List.filter_append order later

namespace Unfolds

variable {id : String} {order below : List String}

/-- A depth-first order holds the nodes that it begins from. -/
theorem subset (unfolds : Unfolds edges ids order) : ids ⊆ order := by
  induction unfolds with
  | nil => exact List.nil_subset _
  | cons children others _ ih =>
    exact List.cons_subset.2 ⟨List.mem_cons_self, List.subset_append_of_subset_right _ ih⟩

/-- A depth-first order holds known nodes alone. -/
theorem subset_of {all : List String} (targets : ∀ e ∈ edges, e.target ∈ all)
    (unfolds : Unfolds edges ids order) (nodes : ids ⊆ all) : order ⊆ all := by
  induction unfolds with
  | nil => exact List.nil_subset _
  | @cons id rest below after children others ihChildren ihOthers =>
    obtain ⟨node, rest⟩ := List.cons_subset.1 nodes
    have kids : childrenOf edges id ⊆ all := fun kid child => targets _ (mem_childrenOf.1 child)
    exact List.append_subset.2 ⟨List.cons_subset.2 ⟨node, ihChildren kids⟩, ihOthers rest⟩

/-- The order from one node is the node and the order from its children. -/
theorem singleton (children : Unfolds edges (childrenOf edges id) below) :
    Unfolds edges [id] (id :: below) := by
  have alone := cons children nil
  rwa [List.append_nil] at alone

/-- A node comes in the order for each time that the order starts from it and for each edge into it
from a node of the order. -/
theorem count_eq (unfolds : Unfolds edges ids order) (v : String) :
    order.count v = ids.count v + (order.flatMap (childrenOf edges)).count v := by
  induction unfolds with
  | nil => rfl
  | cons children others ihChildren ihOthers =>
    rw [List.flatMap_append, List.flatMap_cons]
    simp only [List.count_append, List.count_cons]
    omega

end Unfolds

/-- Below a bound on the rank of the nodes to start from, the ranks of their children leave a bound that
is one lower. -/
theorem exists_unfolds_of_lt {rank : String → Nat}
    (falls : ∀ e ∈ edges, rank e.target < rank e.source) {bound : Nat}
    (low : ∀ id ∈ ids, rank id < bound) : ∃ order, Unfolds edges ids order := by
  induction bound generalizing ids with
  | zero =>
    cases ids with
    | nil => exact ⟨[], .nil⟩
    | cons id rest => exact absurd (low id List.mem_cons_self) (Nat.not_lt_zero _)
  | succ bound ihBound =>
    induction ids with
    | nil => exact ⟨[], .nil⟩
    | cons id rest ihRest =>
      obtain ⟨top, others⟩ := List.forall_mem_cons.1 low
      have lower : ∀ kid ∈ childrenOf edges id, rank kid < bound := fun kid child =>
        (falls _ (mem_childrenOf.1 child)).trans_le (Nat.le_of_lt_succ top)
      obtain ⟨below, children⟩ := ihBound lower
      obtain ⟨after, rest⟩ := ihRest others
      exact ⟨_, .cons children rest⟩

/-- No rank is above the sum of the ranks. -/
theorem rank_le_sum (rank : String → Nat) : ∀ id ∈ ids, rank id ≤ (ids.map rank).sum :=
  fun _ member => List.le_sum_of_mem (List.mem_map_of_mem member)

/-- Where some rank falls along every edge, there is a depth-first order from any nodes. -/
theorem exists_unfolds {rank : String → Nat} (falls : ∀ e ∈ edges, rank e.target < rank e.source)
    (ids : List String) : ∃ order, Unfolds edges ids order :=
  exists_unfolds_of_lt falls fun id member => Nat.lt_succ_of_le (rank_le_sum rank id member)

/-! ## Forests -/

/-- Edges between nodes, at most one into each, along which a rank falls. -/
structure RankedForest (edges : List Edge) (ids : List String) (rank : String → Nat) : Prop where
  distinct : ids.Nodup
  source : ∀ e ∈ edges, e.source ∈ ids
  target : ∀ e ∈ edges, e.target ∈ ids
  once : (edges.map (·.target)).Nodup
  falls : ∀ e ∈ edges, rank e.target < rank e.source

namespace RankedForest

variable {rank : String → Nat} {order : List String} (forest : RankedForest edges ids rank)
include forest

/-- The target of an edge is a child of its source, once, and of no other node. -/
theorem count_childrenOf {e : Edge} (edge : e ∈ edges) (v : String) :
    (childrenOf edges v).count e.target = if v = e.source then 1 else 0 := by
  have length : (edges.filter (·.target = e.target)).length = 1 := by
    have once := List.count_eq_one_of_mem forest.once (List.mem_map_of_mem edge)
    rw [List.count, List.countP_map, List.countP_eq_length_filter] at once
    exact once
  obtain ⟨only, alone⟩ := List.length_eq_one_iff.1 length
  have there : e ∈ edges.filter (·.target = e.target) :=
    List.mem_filter.2 ⟨edge, decide_eq_true rfl⟩
  rw [alone, List.mem_singleton] at there
  have split : (childrenOf edges v).count e.target =
      (edges.filter (·.target = e.target)).countP (·.source = v) := by
    rw [Layout.count_childrenOf, List.countP_filter]
    exact List.countP_congr fun e' _ => by simp [and_comm]
  rw [split, alone, ← there, List.countP_singleton]
  simp [eq_comm]

/-- A node that an edge leads to comes in a depth-first order as often as the source of the edge. -/
theorem count_of_edge (unfolds : Unfolds edges (rootsOf edges ids) order) {e : Edge}
    (edge : e ∈ edges) : order.count e.target = order.count e.source := by
  have root : e.target ∉ rootsOf edges ids := fun root => (mem_rootsOf.1 root).2 e edge rfl
  have kids : ∀ order : List String,
      (order.flatMap (childrenOf edges)).count e.target = order.count e.source := by
    intro order
    induction order with
    | nil => rfl
    | cons v rest ih =>
      rw [List.flatMap_cons, List.count_append, forest.count_childrenOf edge, ih, List.count_cons,
        Nat.add_comm]
      simp
  rw [unfolds.count_eq, List.count_eq_zero_of_not_mem root, kids, Nat.zero_add]

/-- A root stands in the order once. -/
theorem count_of_root (unfolds : Unfolds edges (rootsOf edges ids) order) {v : String}
    (root : v ∈ rootsOf edges ids) : order.count v = 1 := by
  have none : v ∉ order.flatMap (childrenOf edges) := by
    intro kid
    obtain ⟨u, -, child⟩ := List.mem_flatMap.1 kid
    exact (mem_rootsOf.1 root).2 _ (mem_childrenOf.1 child) rfl
  have once : (rootsOf edges ids).Nodup := forest.distinct.filter _
  rw [unfolds.count_eq, List.count_eq_zero_of_not_mem none, List.count_eq_one_of_mem once root]

/-- The order has every node once, since going back along the edges leads to a root. -/
theorem count_of_mem (unfolds : Unfolds edges (rootsOf edges ids) order) {v : String}
    (node : v ∈ ids) : order.count v = 1 := by
  induction gap : (ids.map rank).sum - rank v using Nat.strong_induction_on generalizing v with
  | _ n ih =>
    by_cases root : v ∈ rootsOf edges ids
    · exact forest.count_of_root unfolds root
    · obtain ⟨e, edge, rfl⟩ : ∃ e ∈ edges, e.target = v := by
        simpa [mem_rootsOf, node] using root
      have higher := forest.falls e edge
      have limit := rank_le_sum rank e.source (forest.source e edge)
      rw [forest.count_of_edge unfolds edge]
      exact ih _ (by omega) (forest.source e edge) rfl

/-- The order from the roots holds every node of a forest. -/
theorem mem_iff (unfolds : Unfolds edges (rootsOf edges ids) order) {v : String} :
    v ∈ order ↔ v ∈ ids := by
  constructor
  · exact fun here => unfolds.subset_of forest.target (List.filter_subset_self _) here
  · intro node
    have once := forest.count_of_mem unfolds node
    exact List.count_pos_iff.1 (by omega)

/-- The order from the roots holds no node twice. -/
theorem nodup (unfolds : Unfolds edges (rootsOf edges ids) order) : order.Nodup := by
  rw [List.nodup_iff_count]
  intro v
  by_cases node : v ∈ ids
  · exact (forest.count_of_mem unfolds node).le
  · rw [List.count_eq_zero_of_not_mem (mt (forest.mem_iff unfolds).1 node)]
    exact Nat.zero_le 1

/-- So it is the nodes in another order. -/
theorem perm (unfolds : Unfolds edges (rootsOf edges ids) order) : order.Perm ids :=
  (List.perm_ext_iff_of_nodup (forest.nodup unfolds) forest.distinct).2 fun _ => forest.mem_iff unfolds

end RankedForest

/-! ## What a run arranges -/

/-- Nodes stand in a layer at some slots. -/
def InLayer (entries : List (String × Spot Rat)) (depth : Nat) : List String → List Rat → Prop :=
  List.Forall₂ fun id slot => (id, ⟨depth, slot⟩) ∈ entries

/-- Nodes stand at the slots from some slot on, each at the next. -/
def Consecutive (entries : List (String × Spot Rat)) : Rat → List String → Prop
  | _, [] => True
  | slot, id :: rest =>
    (∃ depth, (id, ⟨depth, slot⟩) ∈ entries) ∧ Consecutive entries (slot + 1) rest

/-- A node stands in the layer before its children, midway between the first and the last of them. -/
def Centered (edges : List Edge) (entries : List (String × Spot Rat)) (id : String) : Prop :=
  ∃ depth slot slots, (id, ⟨depth, slot⟩) ∈ entries ∧
    InLayer entries (depth + 1) (childrenOf edges id) slots ∧
    ∀ first last, slots.head? = some first → slots.getLast? = some last → slot = (first + last) / 2

section Entries

variable {entries more : List (String × Spot Rat)} {depth : Nat} {slot : Rat} {id : String}
  {order later : List String} {slots slots' : List Rat}

theorem InLayer.mono (layer : InLayer entries depth ids slots) (subset : entries ⊆ more) :
    InLayer more depth ids slots :=
  layer.imp fun _ _ entry => subset entry

/-- Two groups of nodes in one layer. -/
theorem InLayer.append {ids' : List String} (layer : InLayer entries depth ids slots)
    (layer' : InLayer entries depth ids' slots') :
    InLayer entries depth (ids ++ ids') (slots ++ slots') :=
  List.rel_append layer layer'

/-- A node of a layer stands at some slot of it. -/
theorem InLayer.exists_slot (layer : InLayer entries depth ids slots) (member : id ∈ ids) :
    ∃ slot, (id, ⟨depth, slot⟩) ∈ entries := by
  induction layer with
  | nil => cases member
  | cons entry others ih =>
    rcases List.mem_cons.1 member with rfl | later
    · exact ⟨_, entry⟩
    · exact ih later

/-- The first node stands at the first slot. -/
theorem InLayer.head? (layer : InLayer entries depth ids slots) (head : ids.head? = some id) :
    ∃ slot, slots.head? = some slot ∧ (id, ⟨depth, slot⟩) ∈ entries := by
  cases layer with
  | nil => cases head
  | cons entry others =>
    cases head
    exact ⟨_, rfl, entry⟩

/-- The last node stands at the last slot. -/
theorem InLayer.getLast? (layer : InLayer entries depth ids slots)
    (last : ids.getLast? = some id) :
    ∃ slot, slots.getLast? = some slot ∧ (id, ⟨depth, slot⟩) ∈ entries := by
  rw [← List.head?_reverse] at last
  have reversed : InLayer entries depth ids.reverse slots.reverse := List.forall₂_reverse_iff.2 layer
  obtain ⟨slot, first, entry⟩ := reversed.head? last
  exact ⟨slot, List.head?_reverse.symm.trans first, entry⟩

theorem Consecutive.mono (consecutive : Consecutive entries slot order) (subset : entries ⊆ more) :
    Consecutive more slot order := by
  induction order generalizing slot with
  | nil => exact consecutive
  | cons id rest ih =>
    obtain ⟨⟨depth, entry⟩, others⟩ := consecutive
    exact ⟨⟨depth, subset entry⟩, ih others⟩

/-- Slots that go on where others end. -/
theorem Consecutive.append (consecutive : Consecutive entries slot order)
    (next : Consecutive entries (slot + order.length) later) :
    Consecutive entries slot (order ++ later) := by
  induction order generalizing slot with
  | nil => simpa using next
  | cons id rest ih =>
    refine ⟨consecutive.1, ih consecutive.2 ?_⟩
    rw [List.length_cons, Nat.cast_succ, add_comm (rest.length : Rat), ← add_assoc] at next
    exact next

theorem Centered.mono (centered : Centered edges entries id) (subset : entries ⊆ more) :
    Centered edges more id := by
  obtain ⟨depth, slot, slots, entry, layer, midway⟩ := centered
  exact ⟨depth, slot, slots, subset entry, layer.mono subset, midway⟩

end Entries

/-- What placing nodes in their depth-first order has added to a state. -/
structure Arranged (edges : List Edge) (depth : Nat) (s s' : Placing Rat) (starts : List String)
    (slots : List Rat) (order : List String) : Prop where
  visited : s'.visited = order.reverse ++ s.visited
  spots : s.spots ⊆ s'.spots
  starts : InLayer s'.spots depth starts slots
  nextSlot : s'.nextSlot = s.nextSlot + (leaves edges order).length
  leaf : Consecutive s'.spots s.nextSlot (leaves edges order)
  centered : ∀ id ∈ order, Centered edges s'.spots id

/-- A node with children stands midway between the first and the last of them. -/
theorem takeSpot_between {depth : Nat} {id : String} {s : Placing Rat} {slots : List Rat}
    {first last : Rat} (head : slots.head? = some first) (tail : slots.getLast? = some last) :
    (takeSpot depth id s slots).2 = (first + last) / 2 ∧
      (takeSpot depth id s slots).1.nextSlot = s.nextSlot := by
  rw [takeSpot, head, tail]
  exact ⟨rfl, rfl⟩

namespace Arranged

variable {depth : Nat} {s s₁ s₂ : Placing Rat} {id : String} {starts others order below after : List String}
  {slots later : List Rat}

theorem nil (edges : List Edge) (depth : Nat) (s : Placing Rat) : Arranged edges depth s s [] [] [] :=
  ⟨rfl, List.Subset.refl _, .nil, (add_zero s.nextSlot).symm, trivial, List.forall_mem_nil _⟩

/-- What two runs have arranged one after the other. -/
theorem append (first : Arranged edges depth s s₁ starts slots order)
    (second : Arranged edges depth s₁ s₂ others later after) :
    Arranged edges depth s s₂ (starts ++ others) (slots ++ later) (order ++ after) := by
  refine ⟨?_, List.Subset.trans first.spots second.spots,
    (first.starts.mono second.spots).append second.starts, ?_, ?_, fun id member => ?_⟩
  · rw [second.visited, first.visited, List.reverse_append, List.append_assoc]
  · rw [second.nextSlot, first.nextSlot, leaves_append, List.length_append, Nat.cast_add, add_assoc]
  · rw [leaves_append]
    refine (first.leaf.mono second.spots).append ?_
    rw [← first.nextSlot]
    exact second.leaf
  · rcases List.mem_append.1 member with before | now
    · exact (first.centered id before).mono second.spots
    · exact second.centered id now

/-- What comes later in an order has not been visited yet. -/
theorem new_after (first : Arranged edges depth s s₁ starts slots order)
    (once : (order ++ after).Nodup) (new : ∀ id ∈ order ++ after, id ∉ s.visited) :
    ∀ id ∈ after, id ∉ s₁.visited := by
  intro v member before
  rw [first.visited, List.mem_append, List.mem_reverse] at before
  rcases before with ahead | old
  · exact (List.nodup_append.1 once).2.2 v ahead v member rfl
  · exact new v (List.mem_append_right _ member) old

/-- A node takes its spot after all that its edges lead to. -/
theorem node (children : Unfolds edges (childrenOf edges id) below)
    (kids : Arranged edges (depth + 1) (s.mark id) s₁ (childrenOf edges id) slots below) :
    Arranged edges depth s (takeSpot depth id s₁ slots).1 [id] [(takeSpot depth id s₁ slots).2]
      (id :: below) := by
  have kept : s₁.spots ⊆ (takeSpot depth id s₁ slots).1.spots := by
    rw [takeSpot_spots]
    exact List.subset_cons_self _ _
  have entry : (id, ⟨depth, (takeSpot depth id s₁ slots).2⟩) ∈ (takeSpot depth id s₁ slots).1.spots := by
    rw [takeSpot_spots]
    exact List.mem_cons_self
  have own : Centered edges (takeSpot depth id s₁ slots).1.spots id :=
    ⟨depth, _, slots, entry, kids.starts.mono kept, fun _ _ head last => (takeSpot_between head last).1⟩
  have counted : (takeSpot depth id s₁ slots).1.nextSlot =
        s.nextSlot + (leaves edges (id :: below)).length ∧
      Consecutive (takeSpot depth id s₁ slots).1.spots s.nextSlot (leaves edges (id :: below)) := by
    have before : s₁.nextSlot = s.nextSlot + (leaves edges below).length := kids.nextSlot
    by_cases alone : childrenOf edges id = []
    · have starts := kids.starts
      rw [alone] at children starts
      cases children
      cases starts
      have same : s₁.nextSlot = s.nextSlot := before.trans (add_zero _)
      have single : leaves edges [id] = [id] := by simp [leaves, alone]
      rw [single, ← same]
      exact ⟨congrArg _ Nat.cast_one.symm, ⟨depth, entry⟩, trivial⟩
    · have same : leaves edges (id :: below) = leaves edges below := by simp [leaves, alone]
      obtain ⟨_, head, -⟩ := kids.starts.head? (List.head?_eq_some_head alone)
      obtain ⟨_, last, -⟩ := kids.starts.getLast? (List.getLast?_eq_some_getLast alone)
      rw [same, (takeSpot_between head last).2]
      exact ⟨before, kids.leaf.mono kept⟩
  refine ⟨?_, List.Subset.trans kids.spots kept, .cons entry .nil, counted.1, counted.2, ?_⟩
  · rw [takeSpot_visited, kids.visited, List.reverse_cons, List.append_assoc]
    rfl
  · exact List.forall_mem_cons.2 ⟨own, fun v member => (kids.centered v member).mono kept⟩

end Arranged

/-- Where no node of the order has been visited before and none comes twice, a run follows the order. -/
theorem Run.arranged {depth : Nat} {s s' : Placing Rat} {starts order : List String}
    {slots : List Rat} (unfolds : Unfolds edges starts order)
    (run : Run edges depth s starts s' slots) (once : order.Nodup)
    (new : ∀ id ∈ order, id ∉ s.visited) : Arranged edges depth s s' starts slots order := by
  induction unfolds generalizing depth s s' slots with
  | nil =>
    cases run
    exact .nil edges depth s
  | @cons id rest below after children others ihChildren ihOthers =>
    obtain ⟨front, back, -⟩ := List.nodup_append.1 once
    obtain ⟨notBelow, distinct⟩ := List.nodup_cons.1 front
    have fresh : ∀ v ∈ below, v ∉ id :: s.visited := by
      intro v member before
      rcases List.mem_cons.1 before with rfl | old
      · exact notBelow member
      · exact new v (List.mem_append_left _ (List.mem_cons_of_mem _ member)) old
    -- all children come below the node in the order, so none of them is left out
    have all : kidsOf edges (id :: s.visited) id = childrenOf edges id := by
      refine List.filter_eq_self.2 fun kid child => ?_
      simpa using fresh kid (children.subset child)
    cases run with
    | cons runBelow runAfter =>
      rw [all] at runBelow
      have first := Arranged.node children (ihChildren runBelow distinct fresh)
      exact first.append (ihOthers runAfter back (first.new_after once new))

/-! ## The layout of a forest -/

/-- Roots are placed in their depth-first order if nothing below them has been visited. -/
theorem foldl_placeRoot_arranged (targets : ∀ e ∈ edges, e.target ∈ ids) {levels : Nat}
    (room : ids.length < levels) {s : Placing Rat} {roots order : List String}
    (unfolds : Unfolds edges roots order) (nodes : roots ⊆ ids) (once : order.Nodup)
    (new : ∀ id ∈ order, id ∉ s.visited) :
    ∃ slots, Arranged edges 0 s (roots.foldl (placeRoot edges levels) s) roots slots order := by
  induction roots generalizing s order with
  | nil =>
    cases unfolds
    exact ⟨[], .nil edges 0 s⟩
  | cons id rest ih =>
    cases unfolds with
    | cons children others =>
      obtain ⟨front, back, -⟩ := List.nodup_append.1 once
      obtain ⟨node, more⟩ := List.cons_subset.1 nodes
      rcases placeRoot_run (s := s) targets node room with ⟨before, -⟩ | ⟨-, slot, run⟩
      · exact absurd before (new id List.mem_cons_self)
      · have first := run.arranged children.singleton front
          fun v member => new v (List.mem_append_left _ member)
        obtain ⟨slots, second⟩ := ih others more back (first.new_after once new)
        exact ⟨slot :: slots, first.append second⟩

/-- Nodes that have been visited are not placed as roots again. -/
theorem foldl_placeRoot_of_visited {levels : Nat} {s : Placing Rat} {roots : List String}
    (visited : roots ⊆ s.visited) : roots.foldl (placeRoot edges levels) s = s := by
  induction roots with
  | nil => rfl
  | cons id rest ih =>
    obtain ⟨here, others⟩ := List.cons_subset.1 visited
    have same : placeRoot edges levels s id = s := if_pos (List.contains_iff_mem.2 here)
    rw [List.foldl_cons, same, ih others]

/-- Once the trees of a forest are placed from its roots, no node is left. -/
theorem placing_arranged {p : Projection} {rank : String → Nat}
    (forest : RankedForest (knownEdges p) (p.nodes.map (·.id)) rank) :
    ∃ order slots, Unfolds (knownEdges p) (rootsOf (knownEdges p) (p.nodes.map (·.id))) order ∧
      order.Perm (p.nodes.map (·.id)) ∧
      Arranged (knownEdges p) 0 unplaced (placing p)
        (rootsOf (knownEdges p) (p.nodes.map (·.id))) slots order := by
  obtain ⟨order, unfolds⟩ :=
    exists_unfolds forest.falls (rootsOf (knownEdges p) (p.nodes.map (·.id)))
  have perm := forest.perm unfolds
  obtain ⟨slots, arranged⟩ := foldl_placeRoot_arranged (s := unplaced) forest.target
    (length_ids_lt p) unfolds (List.filter_subset_self _) (forest.nodup unfolds)
    fun _ _ => List.not_mem_nil
  refine ⟨order, slots, unfolds, perm, ?_⟩
  have all : p.nodes.map (·.id) ⊆ order.reverse ++ (unplaced : Placing Rat).visited :=
    fun id node => List.mem_append_left _ (List.mem_reverse.2 (perm.mem_iff.2 node))
  rw [← arranged.visited] at all
  rw [placing, placingWithin, List.foldl_append, foldl_placeRoot_of_visited all]
  exact arranged

/-- The spot of a node; an unknown one is taken to stand at the first spot. -/
def spotAt (p : Projection) (id : String) : Spot Rat := (spot? p id).getD ⟨0, Coordinate.ofNat 0⟩

/-- Where no node is placed twice, a node stands at any spot that it was given. -/
theorem spotAt_of_mem {p : Projection} {id : String} {spot : Spot Rat}
    (once : ((spots p : List (String × Spot Rat)).map (·.1)).Nodup)
    (entry : (id, spot) ∈ (spots p : List (String × Spot Rat))) : spotAt p id = spot := by
  have found : ((spots p : List (String × Spot Rat)).find? (·.1 = id)).isSome = true :=
    List.find?_isSome.2 ⟨_, entry, decide_eq_true rfl⟩
  obtain ⟨e, there⟩ := Option.isSome_iff_exists.1 found
  have named : e.1 = id := by simpa using List.find?_some there
  have same : e = (id, spot) :=
    List.inj_on_of_nodup_map once (List.mem_of_find?_eq_some there) entry named
  rw [spotAt, spot?, there, same]
  rfl

/-- The nodes without an edge into them are in the first layer and every edge leads to the next one; the
nodes without an edge from them stand at the slots 0, 1, 2 and so on in depth-first order, and any
other node stands midway between its first child and its last. -/
structure Tidy (edges : List Edge) (ids : List String) (spot : String → Spot Rat) : Prop where
  root : ∀ id ∈ ids, (∀ e ∈ edges, e.target ≠ id) → (spot id).depth = 0
  layer : ∀ e ∈ edges, (spot e.target).depth = (spot e.source).depth + 1
  leaf : ∃ order, Unfolds edges (rootsOf edges ids) order ∧ order.Perm ids ∧
    (leaves edges order).map (fun id => (spot id).slot) =
      (List.range (leaves edges order).length).map Nat.cast
  midway : ∀ id ∈ ids, ∀ first last, (childrenOf edges id).head? = some first →
    (childrenOf edges id).getLast? = some last →
    (spot id).slot = ((spot first).slot + (spot last).slot) / 2

section Spots

variable {entries : List (String × Spot Rat)} {spot : String → Spot Rat}
  (placed : ∀ id depth slot, (id, ⟨depth, slot⟩) ∈ entries → spot id = ⟨depth, slot⟩)
include placed

/-- Nodes at slots from some slot on have the slots that count on from it. -/
theorem Consecutive.map_slot {slot : Rat} {order : List String}
    (consecutive : Consecutive entries slot order) :
    order.map (fun id => (spot id).slot) = (List.range order.length).map fun i => slot + Nat.cast i := by
  induction order generalizing slot with
  | nil => rfl
  | cons id rest ih =>
    obtain ⟨⟨depth, entry⟩, others⟩ := consecutive
    rw [List.map_cons, ih others, placed id depth slot entry, List.length_cons,
      List.range_succ_eq_map, List.map_cons, List.map_map, Nat.cast_zero, add_zero]
    congr 1
    refine List.map_congr_left fun i _ => ?_
    rw [Function.comp_apply, Nat.cast_succ, add_assoc, add_comm (1 : Rat)]

/-- An edge leads one layer down. -/
theorem Centered.layer {e : Edge} (centered : Centered edges entries e.source) (edge : e ∈ edges) :
    (spot e.target).depth = (spot e.source).depth + 1 := by
  obtain ⟨depth, slot, slots, entry, layer, -⟩ := centered
  obtain ⟨slot', below⟩ := layer.exists_slot (mem_childrenOf.2 edge)
  rw [placed _ _ _ entry, placed _ _ _ below]

/-- A parent stands midway between its first and its last child. -/
theorem Centered.midway {id first last : String} (centered : Centered edges entries id)
    (head : (childrenOf edges id).head? = some first)
    (tail : (childrenOf edges id).getLast? = some last) :
    (spot id).slot = ((spot first).slot + (spot last).slot) / 2 := by
  obtain ⟨depth, slot, slots, entry, layer, between⟩ := centered
  obtain ⟨a, headSlot, left⟩ := layer.head? head
  obtain ⟨b, tailSlot, right⟩ := layer.getLast? tail
  rw [placed _ _ _ entry, placed _ _ _ left, placed _ _ _ right]
  exact between a b headSlot tailSlot

end Spots

/-- The layout of every forest is tidy. -/
theorem tidy_of_forest {p : Projection} {rank : String → Nat}
    (forest : RankedForest (knownEdges p) (p.nodes.map (·.id)) rank) :
    Tidy (knownEdges p) (p.nodes.map (·.id)) (spotAt p) := by
  obtain ⟨order, slots, unfolds, perm, arranged⟩ := placing_arranged forest
  have once : ((spots p : List (String × Spot Rat)).map (·.1)).Nodup := by
    rw [spots_eq, List.nodup_iff_count]
    intro id
    rw [(balanced_placing Rat p).spots id, arranged.visited, unplaced, List.append_nil,
      List.count_reverse]
    exact List.nodup_iff_count.1 (forest.nodup unfolds) id
  have placed : ∀ id depth slot, (id, ⟨depth, slot⟩) ∈ (placing p : Placing Rat).spots →
      spotAt p id = ⟨depth, slot⟩ := by
    intro id depth slot entry
    rw [← spots_eq] at entry
    exact spotAt_of_mem once entry
  have centered : ∀ id ∈ p.nodes.map (·.id), Centered (knownEdges p) (placing p).spots id :=
    fun id node => arranged.centered id (perm.mem_iff.2 node)
  refine ⟨fun id node free => ?_, fun e edge => ?_, ⟨order, unfolds, perm, ?_⟩, fun id node => ?_⟩
  · obtain ⟨slot, entry⟩ := arranged.starts.exists_slot (mem_rootsOf.2 ⟨node, free⟩)
    rw [placed _ _ _ entry]
  · exact (centered e.source (forest.source e edge)).layer placed edge
  · rw [arranged.leaf.map_slot placed]
    exact List.map_congr_left fun i _ => zero_add _
  · exact fun first last => (centered id node).midway placed

/-! ## Graphs of subtrees -/

section Subtree

variable (excluded : List String) (start : Tree)

/-- Both ends of every edge have a node. -/
theorem knownEdges_ofTree :
    knownEdges (Projection.ofTree excluded start) = (Projection.ofTree excluded start).edges := by
  have pending := Projection.pending_ofTree excluded start
  refine List.filter_eq_self.2 fun e edge => ?_
  rw [pending.source e edge, Bool.true_and]
  rcases pending.target e edge with there | ⟨o, owed, -⟩
  · exact there
  · cases owed

/-- The graph of a tree without repeated uids is a forest, ranked by the sizes of subtrees. -/
theorem rankedForest_ofTree (distinct : start.uids.Nodup) :
    RankedForest (Projection.ofTree excluded start).edges
      ((Projection.ofTree excluded start).nodes.map (·.id)) start.sizeAt := by
  have pending := Projection.pending_ofTree excluded start
  refine ⟨pending.distinct, fun e edge => Projection.containsNode_iff.1 (pending.source e edge), ?_,
    Projection.nodup_targets excluded start, fun e => Projection.sizeAt_lt_of_edge distinct⟩
  rw [← knownEdges_ofTree]
  exact target_mem_of_knownEdges

end Subtree

/-- The layout of a subtree without repeated uids has every node of its graph, each in the box at its
spot, and the spots are tidy. -/
theorem ofProjection_tidy {start : Tree} (distinct : start.uids.Nodup) (excluded : List String)
    (o : LayoutOptions Rat) :
    let p := Projection.ofTree excluded start
    let l := ofProjection o p
    l.nodes.map (·.node) = p.nodes ∧ l.edges = p.edges ∧
      (∀ n ∈ l.nodes, (n.x, n.y) = position o (spotAt p n.node.id)) ∧
      Tidy p.edges (p.nodes.map (·.id)) (spotAt p) := by
  intro p l
  refine ⟨?_, rfl, fun n placed => ?_, ?_⟩
  · rw [show l.nodes = p.nodes.map _ from rfl, List.map_map]
    exact List.map_id p.nodes
  · obtain ⟨node, -, rfl⟩ := List.mem_map.1 placed
    rfl
  · have forest := rankedForest_ofTree excluded start distinct
    rw [← knownEdges_ofTree] at forest
    have tidy := tidy_of_forest forest
    rwa [knownEdges_ofTree] at tidy

/-- Without the role, the root with its two applications stands before the tree below the role. -/
theorem ofProjection_tidy_landscape :
    let o : LayoutOptions Rat :=
      { direction := .right, nodeWidth := 2, nodeHeight := 1, nodeSpacing := 0, layerSpacing := 1 }
    let p := Projection.ofTree ["ClusterRole"] Projection.landscape
    let l := ofProjection o p
    Projection.landscape.uids.Nodup ∧
      l.nodes.map (fun n => (n.node.id, n.x, n.y)) =
        [("root", 0, 1 / 2), ("apps", 3, 0), ("chart", 3, 1), ("config", 0, 2), ("entry", 3, 2)] ∧
      (∀ n ∈ l.nodes, (n.x, n.y) = position o (spotAt p n.node.id)) ∧
      Tidy p.edges (p.nodes.map (·.id)) (spotAt p) := by
  intro o p l
  have distinct : Projection.landscape.uids.Nodup := by decide
  obtain ⟨-, -, boxes, tidy⟩ := ofProjection_tidy distinct ["ClusterRole"] o
  have shown : p =
      { root := "root"
        nodes := [("root", "Kustomization"), ("apps", "Kustomization"), ("chart", "HelmRelease"),
          ("config", "ConfigMap"), ("entry", "ConfigMap")].map fun n =>
            .ofResource { Resource.placeholder with uid := n.1, kind := n.2 }
        edges := [⟨"root", "apps"⟩, ⟨"root", "chart"⟩, ⟨"config", "entry"⟩] } := by
    decide +kernel
  refine ⟨distinct, ?_, boxes, tidy⟩
  rw [show l = ofProjection o p from rfl, shown]
  simp [o, ofProjection, position, spots, placeRoot, place, placeAll, childrenOf, knownEdges,
    Projection.containsNode, GraphNode.ofResource]
  norm_num [Coordinate.ofNat, Coordinate.add, Coordinate.mul, Coordinate.half]

end ResourceTree.Layout
