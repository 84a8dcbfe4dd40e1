import Mathlib.Data.Finset.Card
import Mathlib.Tactic.Ring
import ResourceTree.Proofs.Graph.Placing

/-!
# Turns of nodes in a layout

Each call of `place` is a turn of a node. `Run` describes the calls without a bound on levels: a node
is marked as visited, then the children that are not yet visited have their turns, and then the node
takes its spot. The children are chosen before the first of them is placed, so one of them may have
been visited when its turn comes; it is placed again then.

A turn is owed to an edge from a node that was placed when the target had not been visited, so the
turns of a node are counted by such edges (`count_turns`). A node that no such edge leads to is placed
from the list of nodes, once.
-/

namespace ResourceTree.Layout
set_option autoImplicit false

variable {α : Type} [Coordinate α]

/-! ## Runs -/

/-- The children of a node are the targets of its edges. -/
theorem mem_childrenOf {edges : List Edge} {id kid : String} :
    kid ∈ childrenOf edges id ↔ { source := id, target := kid : Edge } ∈ edges := by
  rw [childrenOf, List.mem_map]
  constructor
  · rintro ⟨e, edge, rfl⟩
    obtain ⟨member, source⟩ := List.mem_filter.1 edge
    rw [← of_decide_eq_true source]
    exact member
  · exact fun edge => ⟨_, List.mem_filter.2 ⟨edge, decide_eq_true rfl⟩, rfl⟩

/-- The children of a node that have not been visited. -/
def kidsOf (edges : List Edge) (visited : List String) (id : String) : List String :=
  (childrenOf edges id).filter fun kid => !visited.contains kid

/-- The children that are left are those that have not been visited. -/
theorem mem_kidsOf {edges : List Edge} {visited : List String} {id kid : String} :
    kid ∈ kidsOf edges visited id ↔ kid ∈ childrenOf edges id ∧ kid ∉ visited := by
  simp [kidsOf]

/-- A child that is left may be placed. -/
theorem ready_of_mem_kidsOf {edges : List Edge} {ids visited : List String} {id kid : String}
    (known : ∀ e ∈ edges, e.target ∈ ids) (member : kid ∈ kidsOf edges visited id) :
    Ready edges ids visited kid := by
  obtain ⟨child, new⟩ := mem_kidsOf.1 member
  exact ⟨known _ (mem_childrenOf.1 child), .inl new⟩

/-- The state of placing with a node marked as visited. -/
def Placing.mark (s : Placing α) (id : String) : Placing α := { s with visited := id :: s.visited }

/-- A node takes its spot between those of its children, or the next free slot. -/
def takeSpot (depth : Nat) (id : String) (s : Placing α) (slots : List α) : Placing α × α :=
  match slots.head?, slots.getLast? with
  | some first, some last =>
    let slot := Coordinate.half (Coordinate.add first last)
    ({ s with spots := (id, ⟨depth, slot⟩) :: s.spots }, slot)
  | _, _ =>
    let slot := s.nextSlot
    ({ s with nextSlot := Coordinate.add slot (Coordinate.ofNat 1)
              spots := (id, ⟨depth, slot⟩) :: s.spots }, slot)

/-- Taking a spot is no visit. -/
@[simp] theorem takeSpot_visited (depth : Nat) (id : String) (s : Placing α) (slots : List α) :
    (takeSpot depth id s slots).1.visited = s.visited := by
  unfold takeSpot
  split
  · rfl
  · rfl

/-- A node takes the spot of its depth, at the slot between its children or at the next one. -/
theorem takeSpot_spots (depth : Nat) (id : String) (s : Placing α) (slots : List α) :
    (takeSpot depth id s slots).1.spots = (id, ⟨depth, (takeSpot depth id s slots).2⟩) :: s.spots := by
  unfold takeSpot
  split
  · rfl
  · rfl

/-- A node is marked, its children that are left have their turns, and then it takes its spot. -/
theorem place_eq (edges : List Edge) (levels depth : Nat) (s : Placing α) (id : String) :
    place edges (levels + 1) depth s id =
      let below := placeAll edges levels (depth + 1) (s.mark id) (kidsOf edges (id :: s.visited) id)
      takeSpot depth id below.1 below.2 := by
  rw [place]
  rfl

/-- One node is placed like a list of one. -/
theorem placeAll_singleton (edges : List Edge) (levels depth : Nat) (s : Placing α) (id : String) :
    placeAll edges levels depth s [id] =
      ((place edges levels depth s id).1, [(place edges levels depth s id).2]) := by
  simp only [placeAll]

/-- Nodes are placed one after the other, each after its children that are not yet visited: what this
makes of a state, and the slots of the nodes. -/
inductive Run (edges : List Edge) : Nat → Placing α → List String → Placing α → List α → Prop where
  | nil (depth : Nat) (s : Placing α) : Run edges depth s [] s []
  | cons {depth : Nat} {s s₁ s₂ : Placing α} {id : String} {rest : List String} {slots later : List α}
      (below : Run edges (depth + 1) (s.mark id) (kidsOf edges (id :: s.visited) id) s₁ slots)
      (after : Run edges depth (takeSpot depth id s₁ slots).1 rest s₂ later) :
      Run edges depth s (id :: rest) s₂ ((takeSpot depth id s₁ slots).2 :: later)

namespace Run

variable {edges : List Edge} {depth : Nat} {s s' s₁ s₂ : Placing α} {starts : List String}
  {slots slots₁ slots₂ : List α}

/-- Runs come to one end only. -/
theorem unique (run₁ : Run edges depth s starts s₁ slots₁) (run₂ : Run edges depth s starts s₂ slots₂) :
    s₁ = s₂ ∧ slots₁ = slots₂ := by
  induction run₁ generalizing s₂ slots₂ with
  | nil depth s =>
    cases run₂
    exact ⟨rfl, rfl⟩
  | cons below after ihBelow ihAfter =>
    cases run₂ with
    | cons below' after' =>
      obtain ⟨rfl, rfl⟩ := ihBelow below'
      obtain ⟨rfl, rfl⟩ := ihAfter after'
      exact ⟨rfl, rfl⟩

/-- A run only adds to the visited nodes. -/
theorem visited_suffix (run : Run edges depth s starts s' slots) : s.visited <:+ s'.visited := by
  induction run with
  | nil depth s => exact List.suffix_refl _
  | cons below after ihBelow ihAfter =>
    rw [takeSpot_visited] at ihAfter
    exact ((List.suffix_cons _ _).trans ihBelow).trans ihAfter

/-- The node that begins a run is visited first. -/
theorem mark_suffix {id : String} {rest : List String} (run : Run edges depth s (id :: rest) s' slots) :
    id :: s.visited <:+ s'.visited := by
  cases run with
  | cons below after =>
    have more := after.visited_suffix
    rw [takeSpot_visited] at more
    exact below.visited_suffix.trans more

/-- After a run the nodes that began it are visited. -/
theorem starts_visited (run : Run edges depth s starts s' slots) : ∀ id ∈ starts, id ∈ s'.visited := by
  induction run with
  | nil depth s => exact List.forall_mem_nil _
  | cons below after ihBelow ihAfter =>
    exact List.forall_mem_cons.2 ⟨(mark_suffix (.cons below after)).subset List.mem_cons_self, ihAfter⟩

/-- When a run is over, all children of what it has visited have been visited. -/
theorem closed (run : Run edges depth s starts s' slots) :
    ∀ id ∈ s'.visited, id ∈ s.visited ∨ Closed edges s'.visited id := by
  induction run with
  | nil depth s => exact fun id here => .inl here
  | @cons depth s s₁ s₂ id rest slots later below after ihBelow ihAfter =>
    have more : s₁.visited ⊆ s₂.visited := by
      have suffix := after.visited_suffix
      rw [takeSpot_visited] at suffix
      exact suffix.subset
    have own : Closed edges s₁.visited id := by
      intro kid child
      by_cases before : kid ∈ id :: s.visited
      · exact below.visited_suffix.subset before
      · exact below.starts_visited kid (mem_kidsOf.2 ⟨child, before⟩)
    intro v visited
    rcases ihAfter v visited with before | closed
    · rw [takeSpot_visited] at before
      rcases ihBelow v before with marked | closed
      · rcases List.mem_cons.1 marked with rfl | old
        · exact .inr (own.mono more)
        · exact .inl old
      · exact .inr (closed.mono more)
    · exact .inr closed

/-- A run visits known nodes alone. -/
theorem visited_subset {ids : List String} (known : ∀ e ∈ edges, e.target ∈ ids)
    (run : Run edges depth s starts s' slots) (nodes : starts ⊆ ids) (before : s.visited ⊆ ids) :
    s'.visited ⊆ ids := by
  induction run with
  | nil depth s => exact before
  | @cons depth s s₁ s₂ id rest slots later below after ihBelow ihAfter =>
    obtain ⟨node, others⟩ := List.cons_subset.1 nodes
    refine ihAfter others ?_
    rw [takeSpot_visited]
    exact ihBelow (fun kid member => (ready_of_mem_kidsOf known member).1)
      (List.cons_subset.2 ⟨node, before⟩)

/-- What may have its turn still may after a run. -/
theorem ready {ids : List String} {id : String} (run : Run edges depth s starts s' slots)
    (ready : Ready edges ids s.visited id) : Ready edges ids s'.visited id := by
  refine ⟨ready.1, ?_⟩
  by_cases visited : id ∈ s'.visited
  · rcases ready.2 with new | closed
    · exact .inr ((run.closed id visited).resolve_left new)
    · exact .inr (closed.mono run.visited_suffix.subset)
  · exact .inl visited

end Run

/-- With more levels than nodes that are not yet visited, `placeAll` is a run. -/
theorem run_placeAll {edges : List Edge} {ids : List String} (known : ∀ e ∈ edges, e.target ∈ ids)
    {levels depth : Nat} {s : Placing α} {starts : List String}
    (ready : ∀ id ∈ starts, Ready edges ids s.visited id)
    (room : starts ≠ [] → (unvisited ids s.visited).card < levels) :
    Run edges depth s starts (placeAll edges levels depth s starts).1
      (placeAll edges levels depth s starts).2 := by
  induction levels generalizing depth s starts with
  | zero =>
    cases starts with
    | nil =>
      rw [placeAll]
      exact .nil depth s
    | cons id rest => exact absurd (room (List.cons_ne_nil _ _)) (Nat.not_lt_zero _)
  | succ levels ih =>
    induction starts generalizing s with
    | nil =>
      rw [placeAll]
      exact .nil depth s
    | cons id rest ihRest =>
      have enough := room (List.cons_ne_nil _ _)
      have own := ready id List.mem_cons_self
      -- a node that is placed again has no child left, so only new nodes take up a level
      have kidsRoom : kidsOf edges (id :: s.visited) id ≠ [] →
          (unvisited ids (s.mark id).visited).card < levels := by
        intro some
        obtain ⟨kid, member⟩ := List.exists_mem_of_ne_nil _ some
        obtain ⟨child, new⟩ := mem_kidsOf.1 member
        have first : id ∉ s.visited := own.2.resolve_right fun closed =>
          new (List.mem_cons_of_mem _ (closed kid child))
        exact (card_unvisited_lt own.1 first).trans_le (Nat.le_of_lt_succ enough)
      let reached := placeAll edges levels (depth + 1) (s.mark id) (kidsOf edges (id :: s.visited) id)
      have below : Run edges (depth + 1) (s.mark id) (kidsOf edges (id :: s.visited) id) reached.1
          reached.2 := ih (fun kid => ready_of_mem_kidsOf known) kidsRoom
      have here : Run edges depth s [id] (place edges (levels + 1) depth s id).1
          [(place edges (levels + 1) depth s id).2] := by
        rw [place_eq]
        exact .cons below (.nil _ _)
      have fewer := Finset.card_le_card (unvisited_subset ids here.visited_suffix.subset)
      have after := ihRest (s := (place edges (levels + 1) depth s id).1)
        (fun kid member => here.ready (ready kid (List.mem_cons_of_mem _ member)))
        fun _ => fewer.trans_lt enough
      rw [placeAll]
      rw [place_eq] at after ⊢
      exact .cons below after

/-! ## Turns that are owed -/

/-- The children that the nodes of a history have handed a turn. The history has the latest turn
first. -/
def handed (edges : List Edge) : List String → List String
  | [] => []
  | id :: visited => kidsOf edges (id :: visited) id ++ handed edges visited

/-- A node that has another turn in a history has no child left then. -/
def Settled (edges : List Edge) : List String → Prop
  | [] => True
  | id :: visited => (id ∈ visited → Closed edges visited id) ∧ Settled edges visited

/-- A node that has been visited is handed no more turns. -/
theorem count_handed_of_visited (edges : List Edge) {visited visited' : List String} {id : String}
    (more : visited <:+ visited') (here : id ∈ visited) :
    (handed edges visited').count id = (handed edges visited).count id := by
  obtain ⟨new, rfl⟩ := more
  induction new with
  | nil => rfl
  | cons v new ih =>
    have passed : id ∉ kidsOf edges (v :: (new ++ visited)) v := fun member =>
      (mem_kidsOf.1 member).2 (List.mem_cons_of_mem _ (List.mem_append_right _ here))
    rw [List.cons_append, handed, List.count_append, List.count_eq_zero_of_not_mem passed, ih,
      Nat.zero_add]

namespace Run

variable {edges : List Edge} {depth : Nat} {s s' : Placing α} {starts : List String} {slots : List α}

/-- Every turn of a run is that of a node it starts with, or has been handed to the node. -/
theorem count_visited (run : Run edges depth s starts s' slots) (id : String) :
    s'.visited.count id + (handed edges s.visited).count id =
      starts.count id + s.visited.count id + (handed edges s'.visited).count id := by
  induction run with
  | nil depth s => rw [List.count_nil, Nat.zero_add]
  | @cons depth s s₁ s₂ v rest slots later below after ihBelow ihAfter =>
    rw [takeSpot_visited] at ihAfter
    rw [Placing.mark, handed, List.count_append, List.count_cons] at ihBelow
    rw [List.count_cons]
    omega

/-- A node gets a spot at each of its turns. -/
theorem count_spots (run : Run edges depth s starts s' slots) (id : String) :
    (s'.spots.map (·.1)).count id + s.visited.count id =
      (s.spots.map (·.1)).count id + s'.visited.count id := by
  induction run with
  | nil depth s => rfl
  | @cons depth s s₁ s₂ v rest slots later below after ihBelow ihAfter =>
    rw [takeSpot_visited, takeSpot_spots, List.map_cons, List.count_cons] at ihAfter
    rw [Placing.mark, List.count_cons] at ihBelow
    dsimp only at ihAfter ihBelow
    omega

/-- A run leaves the history settled, if it begins with nodes that may be placed. -/
theorem settled {ids : List String} (known : ∀ e ∈ edges, e.target ∈ ids)
    (run : Run edges depth s starts s' slots) (ready : ∀ id ∈ starts, Ready edges ids s.visited id)
    (before : Settled edges s.visited) : Settled edges s'.visited := by
  induction run with
  | nil depth s => exact before
  | @cons depth s s₁ s₂ v rest slots later below after ihBelow ihAfter =>
    have here : Run edges depth s [v] (takeSpot depth v s₁ slots).1 [(takeSpot depth v s₁ slots).2] :=
      .cons below (.nil _ _)
    have again : v ∈ s.visited → Closed edges s.visited v := fun visited =>
      (ready v List.mem_cons_self).2.resolve_left fun new => new visited
    refine ihAfter (fun id member => here.ready (ready id (List.mem_cons_of_mem _ member))) ?_
    rw [takeSpot_visited]
    exact ihBelow (fun kid => ready_of_mem_kidsOf known) ⟨again, before⟩

end Run

/-! ## The edges that turns are owed to -/

/-- The nodes that have a turn before a node has its first. -/
def earlier (turns : List String) (id : String) : List String := turns.takeWhile (· ≠ id)

/-- The edges into a node from nodes that have a turn before it has its first. -/
def edgesFromEarlier (edges : List Edge) (turns : List String) (id : String) : List Edge :=
  edges.filter fun e => e.target = id ∧ e.source ∈ earlier turns id

/-- More turns do not come before those that were there. -/
theorem earlier_append_of_new {turns : List String} {id : String} (new : id ∉ turns)
    (more : List String) : earlier (turns ++ more) id = turns ++ earlier more id :=
  List.takeWhile_append_of_pos fun _ here => decide_eq_true fun same => new (same ▸ here)

theorem earlier_of_new {turns : List String} {id : String} (new : id ∉ turns) :
    earlier turns id = turns := by
  have whole := earlier_append_of_new new []
  rwa [List.append_nil, show earlier [] id = [] from rfl, List.append_nil] at whole

/-- After the first turn of a node, the ones that have a turn before it stay the same. -/
theorem earlier_concat {turns : List String} {id v : String} (here : id ∈ turns ++ [v]) :
    earlier (turns ++ [v]) id = earlier turns id := by
  by_cases before : id ∈ turns
  · obtain ⟨l, r, rfl⟩ := List.append_of_mem before
    simp [earlier, List.takeWhile_append]
  · obtain rfl : id = v := List.mem_singleton.1 ((List.mem_append.1 here).resolve_left before)
    rw [earlier_append_of_new before, earlier_of_new before]
    simp [earlier]

/-- As long as a node has no turn, all turns are before its first. -/
theorem length_edgesFromEarlier_of_new {turns : List String} {id : String} (new : id ∉ turns)
    (edges : List Edge) : (edgesFromEarlier edges turns id).length =
      edges.countP fun e => e.target = id ∧ e.source ∈ turns := by
  rw [edgesFromEarlier, earlier_of_new new, List.countP_eq_length_filter]

/-- A node is among the children of another as often as edges lead from one to the other. -/
theorem count_childrenOf (edges : List Edge) (id v : String) :
    (childrenOf edges v).count id = edges.countP fun e => e.target = id ∧ e.source = v := by
  rw [childrenOf, List.count_eq_countP, List.countP_map, List.countP_filter]
  exact List.countP_congr fun e _ => by simp

/-- One more turn brings the edges of its node. -/
theorem countP_mem_concat {edges : List Edge} {turns : List String} {v : String} (id : String)
    (new : v ∉ turns) :
    (edges.countP fun e => e.target = id ∧ e.source ∈ turns ++ [v]) =
      (childrenOf edges v).count id + edges.countP fun e => e.target = id ∧ e.source ∈ turns := by
  rw [count_childrenOf, List.countP_eq_countP_filter_add _ _ (·.source = v), List.countP_filter,
    List.countP_filter]
  congr 1
  · exact List.countP_congr fun e _ => by simp +contextual
  · refine List.countP_congr fun e _ => ?_
    have other : e.source ∈ turns → e.source ≠ v := fun there same => new (same ▸ there)
    simp only [List.mem_append, List.mem_singleton, Bool.decide_and, Bool.and_eq_true,
      decide_eq_true_eq, Bool.not_eq_true', decide_eq_false_iff_not]
    constructor
    · rintro ⟨⟨target, there | same⟩, apart⟩
      · exact ⟨target, there⟩
      · exact absurd same apart
    · rintro ⟨target, there⟩
      exact ⟨⟨target, .inl there⟩, other there⟩

/-- A node is handed a turn for each edge from a node that had a turn before it had its first. -/
theorem count_handed {edges : List Edge} {visited : List String} (settled : Settled edges visited)
    (id : String) :
    (handed edges visited).count id = (edgesFromEarlier edges visited.reverse id).length := by
  induction visited with
  | nil => simp [handed, edgesFromEarlier, earlier]
  | cons v visited ih =>
    rw [handed, List.count_append, ih settled.2, List.reverse_cons]
    by_cases here : id ∈ v :: visited
    · have passed : id ∉ kidsOf edges (v :: visited) v := fun kid => (mem_kidsOf.1 kid).2 here
      have turn : id ∈ visited.reverse ++ [v] := by
        rwa [← List.reverse_cons, List.mem_reverse]
      rw [List.count_eq_zero_of_not_mem passed, edgesFromEarlier, edgesFromEarlier,
        earlier_concat turn, Nat.zero_add]
    · have new : id ∉ visited.reverse := fun turn =>
        here (List.mem_cons_of_mem _ (List.mem_reverse.1 turn))
      have new' : id ∉ visited.reverse ++ [v] := by
        rwa [← List.reverse_cons, List.mem_reverse]
      have kids : (kidsOf edges (v :: visited) v).count id = (childrenOf edges v).count id :=
        List.count_filter (by simpa using here)
      rw [kids, length_edgesFromEarlier_of_new new, length_edgesFromEarlier_of_new new']
      by_cases again : v ∈ visited
      · -- with another turn, a node has no child left
        have none : id ∉ childrenOf edges v := fun child =>
          here (List.mem_cons_of_mem _ (settled.1 again id child))
        rw [List.count_eq_zero_of_not_mem none, Nat.zero_add]
        refine List.countP_congr fun e _ => ?_
        have same : e.source ∈ visited.reverse ++ [v] ↔ e.source ∈ visited.reverse := by
          rw [List.mem_append, List.mem_singleton, List.mem_reverse]
          exact ⟨fun either => either.elim (fun old => old) fun eq => eq ▸ again, .inl⟩
        simp only [same]
      · rw [countP_mem_concat id fun turn => again (List.mem_reverse.1 turn)]

/-! ## The layout of a graph -/

/-- The nodes that no edge leads to. -/
def rootsOf (edges : List Edge) (ids : List String) : List String :=
  ids.filter fun id => !(edges.any (·.target = id))

/-- The roots are the nodes that no edge leads to. -/
theorem mem_rootsOf {edges : List Edge} {ids : List String} {id : String} :
    id ∈ rootsOf edges ids ↔ id ∈ ids ∧ ∀ e ∈ edges, e.target ≠ id := by
  simp [rootsOf]

/-- Nothing has been placed. -/
def unplaced : Placing α := { visited := [], nextSlot := Coordinate.ofNat 0, spots := [] }

/-- What has been placed at the end of a layout, with a bound on the levels. -/
def placingWithin (levels : Nat) (p : Projection) : Placing α :=
  let ids := p.nodes.map (·.id)
  (rootsOf (knownEdges p) ids ++ ids).foldl (placeRoot (knownEdges p) levels) unplaced

/-- What has been placed at the end of a layout. -/
def placing (p : Projection) : Placing α := placingWithin (p.nodes.length + 1) p

/-- The spots of a graph are those of the state that placing comes to. -/
theorem spots_eq (p : Projection) : (spots p : List (String × Spot α)) = (placing p).spots := by
  rw [spots, placing, placingWithin, List.length_map]
  rfl

/-- The turns of a layout: the nodes in the order in which their placing begins. -/
def turns (s : Placing α) : List String := s.visited.reverse

/-- What placing keeps between two trees: each node has had the turns that it was handed, or the one
that began its tree. -/
structure Balanced (edges : List Edge) (ids : List String) (s : Placing α) : Prop where
  known : ∀ id ∈ s.visited, id ∈ ids
  settled : Settled edges s.visited
  turns : ∀ id, s.visited.count id = (handed edges s.visited).count id ∨
    s.visited.count id = 1 ∧ (handed edges s.visited).count id = 0
  spots : ∀ id, (s.spots.map (·.1)).count id = s.visited.count id

section Layout

variable {edges : List Edge} {ids : List String} (targets : ∀ e ∈ edges, e.target ∈ ids)
  {levels : Nat} {s : Placing α} {id : String}
include targets

/-- A tree begins with a run, or it does not begin. -/
theorem placeRoot_run (node : id ∈ ids) (room : ids.length < levels) :
    (id ∈ s.visited ∧ placeRoot edges levels s id = s) ∨
      (id ∉ s.visited ∧ ∃ slot, Run edges 0 s [id] (placeRoot edges levels s id) [slot]) := by
  rw [placeRoot]
  split
  · next before => exact .inl ⟨List.contains_iff_mem.1 before, rfl⟩
  · next unvisited =>
    have new : id ∉ s.visited := fun before => unvisited (List.contains_iff_mem.2 before)
    have run : Run edges 0 s [id] (placeAll edges levels 0 s [id]).1 (placeAll edges levels 0 s [id]).2 :=
      run_placeAll targets (fun v member => (List.mem_singleton.1 member) ▸ ⟨node, .inl new⟩)
        fun _ => (card_unvisited_le ids s.visited).trans_lt room
    rw [placeAll_singleton] at run
    exact .inr ⟨new, _, run⟩

/-- Placing one more root keeps the balance, whether it has been visited or not. -/
theorem Balanced.placeRoot (balanced : Balanced edges ids s) (node : id ∈ ids)
    (room : ids.length < levels) : Balanced edges ids (placeRoot edges levels s id) := by
  rcases placeRoot_run (s := s) targets node room with ⟨-, same⟩ | ⟨new, slot, run⟩
  · rw [same]
    exact balanced
  · have turns := run.count_visited
    have fresh : s.visited.count id = 0 := List.count_eq_zero_of_not_mem new
    refine ⟨fun v visited => ?_, ?_, fun v => ?_, fun v => ?_⟩
    · exact run.visited_subset targets (List.cons_subset.2 ⟨node, List.nil_subset _⟩)
        (fun _ before => balanced.known _ before) visited
    · exact run.settled targets (fun v member => (List.mem_singleton.1 member) ▸ ⟨node, .inl new⟩)
        balanced.settled
    · have counted := turns v
      have before := balanced.turns v
      rw [List.count_singleton] at counted
      by_cases same : id = v
      · -- a node that has been visited is handed nothing, so its tree begins with its only turn
        subst same
        have later := count_handed_of_visited edges run.mark_suffix List.mem_cons_self
        have own : id ∉ kidsOf edges (id :: s.visited) id := fun kid =>
          (mem_kidsOf.1 kid).2 List.mem_cons_self
        rw [handed, List.count_append, List.count_eq_zero_of_not_mem own] at later
        rw [beq_self_eq_true, if_pos rfl] at counted
        omega
      · rw [if_neg fun eq => same (beq_iff_eq.1 eq)] at counted
        rcases before with handed | ⟨once, none⟩
        · omega
        · have here : v ∈ s.visited := List.count_pos_iff.1 (by omega)
          have later := count_handed_of_visited edges run.visited_suffix here
          omega
    · have spots := run.count_spots v
      have before := balanced.spots v
      omega

/-- Placing any roots keeps the balance. -/
theorem balanced_foldl (room : ids.length < levels) {roots : List String} (nodes : roots ⊆ ids)
    (balanced : Balanced edges ids s) :
    Balanced edges ids (roots.foldl (Layout.placeRoot edges levels) s) := by
  induction roots generalizing s with
  | nil => exact balanced
  | cons id rest ih =>
    obtain ⟨node, others⟩ := List.cons_subset.1 nodes
    exact ih others (balanced.placeRoot targets node room)

/-- Placing roots visits each of them and forgets none. -/
theorem visited_foldl (room : ids.length < levels) {roots : List String} (nodes : roots ⊆ ids) :
    s.visited ⊆ (roots.foldl (Layout.placeRoot edges levels) s).visited ∧
      roots ⊆ (roots.foldl (Layout.placeRoot edges levels) s).visited := by
  induction roots generalizing s with
  | nil => exact ⟨List.Subset.refl _, List.nil_subset _⟩
  | cons id rest ih =>
    obtain ⟨node, others⟩ := List.cons_subset.1 nodes
    obtain ⟨kept, all⟩ := ih (s := Layout.placeRoot edges levels s id) others
    rcases placeRoot_run (s := s) targets node room with ⟨before, same⟩ | ⟨-, slot, run⟩
    · rw [same] at kept all
      rw [List.foldl_cons, same]
      exact ⟨kept, List.cons_subset.2 ⟨kept before, all⟩⟩
    · have here := run.starts_visited id List.mem_cons_self
      exact ⟨List.Subset.trans run.visited_suffix.subset kept, List.cons_subset.2 ⟨kept here, all⟩⟩

/-- The bound on the levels makes no difference, as long as it is above the number of nodes. -/
theorem foldl_placeRoot_levels {levels' : Nat} (room : ids.length < levels)
    (room' : ids.length < levels') {roots : List String} (nodes : roots ⊆ ids) :
    roots.foldl (Layout.placeRoot edges levels) s = roots.foldl (Layout.placeRoot edges levels') s := by
  induction roots generalizing s with
  | nil => rfl
  | cons id rest ih =>
    obtain ⟨node, others⟩ := List.cons_subset.1 nodes
    rw [List.foldl_cons, List.foldl_cons, ih others]
    congr 1
    rcases placeRoot_run (s := s) targets node room with ⟨before, same⟩ | ⟨new, slot, run⟩
    · rw [same, Layout.placeRoot, if_pos (List.contains_iff_mem.2 before)]
    · rcases placeRoot_run (s := s) targets node room' with ⟨before, -⟩ | ⟨-, slot', run'⟩
      · exact absurd before new
      · exact (run.unique run').1

end Layout

/-- Of the edges into a node no more count than there are. -/
theorem length_edgesFromEarlier_le (edges : List Edge) (turns : List String) (id : String) :
    (edgesFromEarlier edges turns id).length ≤ (edges.filter (·.target = id)).length := by
  have narrower : edgesFromEarlier edges turns id =
      (edges.filter (·.target = id)).filter (·.source ∈ earlier turns id) := by
    rw [edgesFromEarlier, List.filter_filter]
    exact List.filter_congr fun e _ => by rw [Bool.decide_and, Bool.and_comm]
  rw [narrower]
  exact List.length_filter_le _ _

section Graph

variable (α) (p : Projection)

theorem rootsOf_append_subset :
    rootsOf (knownEdges p) (p.nodes.map (·.id)) ++ p.nodes.map (·.id) ⊆ p.nodes.map (·.id) :=
  List.append_subset.2 ⟨List.filter_subset_self _, List.Subset.refl _⟩

theorem length_ids_lt : (p.nodes.map (·.id)).length < p.nodes.length + 1 := by
  rw [List.length_map]
  exact Nat.lt_succ_self _

/-- The state that placing comes to is balanced. -/
theorem balanced_placing :
    Balanced (knownEdges p) (p.nodes.map (·.id)) (placing p : Placing α) := by
  have begin : Balanced (knownEdges p) (p.nodes.map (·.id)) (unplaced : Placing α) :=
    ⟨List.forall_mem_nil _, trivial, fun _ => .inl rfl, fun _ => rfl⟩
  exact balanced_foldl target_mem_of_knownEdges (length_ids_lt p) (rootsOf_append_subset p) begin

/-- Every node of the graph has a turn, and no other node has one. -/
theorem mem_turns_placing {id : String} :
    id ∈ turns (placing p : Placing α) ↔ ∃ n ∈ p.nodes, n.id = id := by
  have all := (visited_foldl (s := (unplaced : Placing α)) target_mem_of_knownEdges (length_ids_lt p)
    (rootsOf_append_subset p)).2
  rw [turns, List.mem_reverse, ← List.mem_map]
  exact ⟨(balanced_placing α p).known id, fun node => all (List.mem_append_right _ node)⟩

/-- A node has as many turns as edges from nodes before it, and at least one. -/
theorem count_turns_placing {n : GraphNode} (node : n ∈ p.nodes) :
    (turns (placing p : Placing α)).count n.id =
      max 1 (edgesFromEarlier (knownEdges p) (turns (placing p : Placing α)) n.id).length := by
  have balanced := balanced_placing α p
  have turn := List.count_pos_iff.2 ((mem_turns_placing α p).2 ⟨n, node, rfl⟩)
  rw [turns, List.count_reverse] at turn ⊢
  rw [← count_handed balanced.settled]
  rcases balanced.turns n.id with handed | ⟨once, none⟩
  · omega
  · omega

/-- The layout of a graph comes to an end, however deep it may go, and gives every node a spot at each
of its turns. A node has one turn for each edge from a node that has a turn before the first of its
own, and one if there is no such edge. So every node is placed once if and only if no two such edges
lead to one node, and in particular if no two edges do. -/
theorem count_turns :
    let s : Placing α := placing p
    let late := edgesFromEarlier (knownEdges p) (turns s)
    (∀ levels, p.nodes.length < levels → placingWithin levels p = s) ∧
      ((spots p : List (String × Spot α)).map (·.1)).Perm (turns s) ∧
      (∀ id, id ∈ turns s ↔ ∃ n ∈ p.nodes, n.id = id) ∧
      (∀ n ∈ p.nodes, (turns s).count n.id = max 1 (late n.id).length) ∧
      ((∀ n ∈ p.nodes, (turns s).count n.id = 1) ↔ ∀ n ∈ p.nodes, (late n.id).length ≤ 1) ∧
      ((∀ n ∈ p.nodes, ((knownEdges p).filter (·.target = n.id)).length ≤ 1) →
        ∀ n ∈ p.nodes, (turns s).count n.id = 1) := by
  intro s late
  have counted : ∀ n ∈ p.nodes, (turns s).count n.id = max 1 (late n.id).length :=
    fun n node => count_turns_placing α p node
  refine ⟨fun levels room => ?_, ?_, fun id => mem_turns_placing α p, counted, ?_, ?_⟩
  · exact foldl_placeRoot_levels target_mem_of_knownEdges (by rwa [List.length_map])
      (length_ids_lt p) (rootsOf_append_subset p)
  · rw [spots_eq, List.perm_iff_count]
    intro id
    rw [turns, List.count_reverse]
    exact (balanced_placing α p).spots id
  · refine forall₂_congr fun n node => ?_
    rw [counted n node]
    omega
  · intro narrow n node
    have fewer := length_edgesFromEarlier_le (knownEdges p) (turns s) n.id
    rw [counted n node, Nat.max_eq_left (fewer.trans (narrow n node))]

end Graph

/-- A node with two below it, one of which has another below it, and two nodes in a circle. -/
def ringBeside : Projection where
  root := "top"
  nodes := ["ring", "top", "left", "right", "low", "gear"].map fun id =>
    { id, kind := "ConfigMap", name := id, ns := none, status := .unknown }
  edges := [⟨"top", "left"⟩, ⟨"top", "right"⟩, ⟨"left", "low"⟩, ⟨"ring", "gear"⟩, ⟨"gear", "ring"⟩]

/-- A ring beside a tree, each node of which has one turn. -/
theorem count_turns_ringBeside :
    (∀ n ∈ ringBeside.nodes, ((knownEdges ringBeside).filter (·.target = n.id)).length ≤ 1) ∧
      ringBeside.nodes.length < 7 ∧
      turns (placing ringBeside : Placing Rat) = ["top", "left", "low", "right", "ring", "gear"] ∧
      (placingWithin 7 ringBeside : Placing Rat) = placing ringBeside ∧
      ∀ n ∈ ringBeside.nodes, (turns (placing ringBeside : Placing Rat)).count n.id = 1 := by
  have narrow : ∀ n ∈ ringBeside.nodes,
      ((knownEdges ringBeside).filter (·.target = n.id)).length ≤ 1 := by
    decide
  have room : ringBeside.nodes.length < 7 := by decide
  have order : turns (placing ringBeside : Placing Rat) =
      ["top", "left", "low", "right", "ring", "gear"] := by
    simp [turns, placing, placingWithin, unplaced, placeRoot, place, placeAll, childrenOf, rootsOf,
      knownEdges, Projection.containsNode, ringBeside]
  obtain ⟨within, -, -, -, -, once⟩ := count_turns Rat ringBeside
  exact ⟨narrow, room, order, within 7 room, once narrow⟩

/-- A node that leads to two others, of which one leads to the other. -/
def shortcut : Projection where
  root := "top"
  nodes := ["top", "left", "right"].map fun id =>
    { id, kind := "ConfigMap", name := id, ns := none, status := .unknown }
  edges := [⟨"top", "left"⟩, ⟨"top", "right"⟩, ⟨"left", "right"⟩]

/-- The node on the right is placed from the left one, and then from the top as well. -/
theorem right_placed_twice :
    ¬ ∀ n ∈ shortcut.nodes, (turns (placing shortcut : Placing Rat)).count n.id = 1 := by
  have order : turns (placing shortcut : Placing Rat) = ["top", "left", "right", "right"] := by
    simp [turns, placing, placingWithin, unplaced, placeRoot, place, placeAll, childrenOf, rootsOf,
      knownEdges, Projection.containsNode, shortcut]
  rw [order]
  decide

end ResourceTree.Layout
