import Mathlib.Algebra.Order.Field.Rat
import Mathlib.Data.Finset.Card
import Mathlib.Tactic.Linarith
import ResourceTree.Proofs.Graph.Freshness

/-!
# Spots of nodes

Placing a node takes up an interval of slots for it and for all that is placed on the way. Calls at
one depth follow each other, so their intervals do not meet, and nodes of one layer are at least one
slot apart. A node can be placed again, but only when all of its children have been visited: then it
takes a fresh slot like a node without children. This is also why the bound on levels is never
reached.
-/

namespace ResourceTree.Layout
set_option autoImplicit false

/-- In one layer, two spots are at least one slot apart. -/
def Spot.Apart (a b : Spot Rat) : Prop :=
  a.depth = b.depth → a.slot + 1 ≤ b.slot ∨ b.slot + 1 ≤ a.slot

theorem Spot.Apart.symm {a b : Spot Rat} (apart : a.Apart b) : b.Apart a :=
  fun same => (apart same.symm).symm

/-- Entries from some layer on that keep to an interval of slots and apart from each other. -/
structure Fits (depth : Nat) (lo hi : Rat) (entries : List (String × Spot Rat)) : Prop where
  deep : ∀ e ∈ entries, depth ≤ e.2.depth
  inside : ∀ e ∈ entries, lo ≤ e.2.slot ∧ e.2.slot + 1 ≤ hi
  apart : entries.Pairwise fun a b => a.2.Apart b.2

theorem fits_nil (depth : Nat) (lo hi : Rat) : Fits depth lo hi [] :=
  ⟨List.forall_mem_nil _, List.forall_mem_nil _, List.Pairwise.nil⟩

/-- Entries of an interval and of the next one are apart. -/
theorem Fits.append {depth : Nat} {lo mid hi : Rat} {entries later : List (String × Spot Rat)}
    (first : Fits depth lo mid entries) (second : Fits depth mid hi later) (bottom : lo ≤ mid)
    (top : mid ≤ hi) : Fits depth lo hi (later ++ entries) := by
  refine ⟨fun e member => ?_, fun e member => ?_, ?_⟩
  · rcases List.mem_append.1 member with new | old
    · exact second.deep e new
    · exact first.deep e old
  · rcases List.mem_append.1 member with new | old
    · have bounds := second.inside e new
      exact ⟨by linarith, bounds.2⟩
    · have bounds := first.inside e old
      exact ⟨bounds.1, by linarith⟩
  · refine List.pairwise_append.2 ⟨second.apart, first.apart, fun new here old there _ => .inr ?_⟩
    have above := (second.inside new here).1
    have below := (first.inside old there).2
    linarith

/-- A node stands in the layer before those that are placed from it. -/
theorem Fits.cons {depth : Nat} {lo mid hi slot : Rat} {entries : List (String × Spot Rat)}
    (below : Fits (depth + 1) lo mid entries) (id : String) (bottom : lo ≤ slot)
    (top : slot + 1 ≤ hi) (wider : mid ≤ hi) :
    Fits depth lo hi ((id, ⟨depth, slot⟩) :: entries) := by
  refine ⟨fun e member => ?_, fun e member => ?_, ?_⟩
  · rcases List.mem_cons.1 member with rfl | old
    · exact Nat.le_refl _
    · have deeper := below.deep e old
      omega
  · rcases List.mem_cons.1 member with rfl | old
    · exact ⟨bottom, top⟩
    · have bounds := below.inside e old
      exact ⟨bounds.1, by linarith⟩
  · refine List.pairwise_cons.2 ⟨fun e old same => ?_, below.apart⟩
    have deeper := below.deep e old
    have layer : depth = e.2.depth := same
    omega

/-! ## What has been visited -/

/-- The ids that have not been visited. -/
def unvisited (ids visited : List String) : Finset String := ids.toFinset \ visited.toFinset

theorem unvisited_subset (ids : List String) {visited visited' : List String} (more : visited ⊆ visited') :
    unvisited ids visited' ⊆ unvisited ids visited := by
  intro id new
  rw [unvisited, Finset.mem_sdiff, List.mem_toFinset, List.mem_toFinset] at new ⊢
  exact ⟨new.1, fun old => new.2 (more old)⟩

/-- One more visited node leaves fewer to visit, which is what the recursion goes by. -/
theorem card_unvisited_lt {ids visited : List String} {id : String} (known : id ∈ ids)
    (new : id ∉ visited) : (unvisited ids (id :: visited)).card < (unvisited ids visited).card := by
  rw [unvisited, List.toFinset_cons, Finset.sdiff_insert]
  refine Finset.card_erase_lt_of_mem ?_
  rw [Finset.mem_sdiff, List.mem_toFinset, List.mem_toFinset]
  exact ⟨known, new⟩

theorem card_unvisited_le (ids visited : List String) :
    (unvisited ids visited).card ≤ ids.length :=
  (Finset.card_le_card Finset.sdiff_subset).trans (List.toFinset_card_le ids)

/-- All children of a node have been visited. -/
def Closed (edges : List Edge) (visited : List String) (id : String) : Prop :=
  ∀ kid ∈ childrenOf edges id, kid ∈ visited

/-- Children that have been visited stay visited. -/
theorem Closed.mono {edges : List Edge} {visited visited' : List String} {id : String}
    (closed : Closed edges visited id) (more : visited ⊆ visited') : Closed edges visited' id :=
  fun kid child => more (closed kid child)

/-- What placing does from a layer on: more nodes are visited, each with all of its children, and each
gets a spot within the slots that are taken up. -/
structure Extends (edges : List Edge) (depth : Nat) (s s' : Placing Rat) : Prop where
  visited : s.visited ⊆ s'.visited
  closed : ∀ id ∈ s'.visited, id ∈ s.visited ∨ Closed edges s'.visited id
  slots : s.nextSlot ≤ s'.nextSlot
  spots : ∃ new, s'.spots = new ++ s.spots ∧ Fits depth s.nextSlot s'.nextSlot new ∧
    ∀ id ∈ s'.visited, id ∈ s.visited ∨ id ∈ new.map (·.1)

namespace Extends

variable {edges : List Edge} {depth : Nat} {s s' s'' : Placing Rat}

theorem refl (edges : List Edge) (depth : Nat) (s : Placing Rat) : Extends edges depth s s :=
  ⟨List.Subset.refl _, fun _ old => .inl old, le_rfl,
    [], rfl, fits_nil depth _ _, fun _ old => .inl old⟩

/-- What two runs add one after the other is an extension as well. -/
theorem trans (first : Extends edges depth s s') (second : Extends edges depth s' s'') :
    Extends edges depth s s'' := by
  obtain ⟨new, spots, fits, named⟩ := first.spots
  obtain ⟨new', spots', fits', named'⟩ := second.spots
  refine ⟨List.Subset.trans first.visited second.visited, fun id visited => ?_,
    first.slots.trans second.slots, new' ++ new, ?_,
    fits.append fits' first.slots second.slots, fun id visited => ?_⟩
  · rcases second.closed id visited with before | closed
    · exact (first.closed id before).imp_right fun closed => closed.mono second.visited
    · exact .inr closed
  · rw [spots', spots, List.append_assoc]
  · rw [List.map_append, List.mem_append]
    rcases named' id visited with before | here
    · exact (named id before).imp_right .inr
    · exact .inr (.inl here)

end Extends

/-! ## Placing -/

section Placing

variable {edges : List Edge} {ids : List String}

/-- What allows placing a known node: it has not been visited, or all of its children have been. -/
def Ready (edges : List Edge) (ids visited : List String) (id : String) : Prop :=
  id ∈ ids ∧ (id ∉ visited ∨ Closed edges visited id)

/-- What may be placed may still be placed later. -/
theorem Ready.extend {depth : Nat} {s s' : Placing Rat} {id : String}
    (ready : Ready edges ids s.visited id) (more : Extends edges depth s s') :
    Ready edges ids s'.visited id := by
  refine ⟨ready.1, ?_⟩
  by_cases visited : id ∈ s'.visited
  · rcases ready.2 with new | closed
    · exact .inr ((more.closed id visited).resolve_left new)
    · exact .inr (closed.mono more.visited)
  · exact .inl visited

/-- A node has been placed at a slot, with all that was placed on the way. -/
structure Placed (edges : List Edge) (depth : Nat) (s s' : Placing Rat) (id : String) (slot : Rat) :
    Prop where
  more : Extends edges depth s s'
  visited : id ∈ s'.visited
  inside : s.nextSlot ≤ slot ∧ slot + 1 ≤ s'.nextSlot

/-- Nodes have been placed one after the other, all within the slots that this has taken up. -/
structure PlacedAll (edges : List Edge) (depth : Nat) (s s' : Placing Rat) (kids : List String)
    (slots : List Rat) : Prop where
  more : Extends edges depth s s'
  visited : ∀ kid ∈ kids, kid ∈ s'.visited
  inside : ∀ slot ∈ slots, s.nextSlot ≤ slot ∧ slot + 1 ≤ s'.nextSlot

/-- Nodes are placed one after the other, if each can be placed when its turn comes. -/
theorem placedAll (depth : Nat) {levels : Nat}
    (placed : ∀ s id, Ready edges ids s.visited id → (unvisited ids s.visited).card < levels →
      Placed edges depth s (place edges levels depth s id).1 id (place edges levels depth s id).2)
    {s : Placing Rat} {kids : List String} (ready : ∀ kid ∈ kids, Ready edges ids s.visited kid)
    (room : kids ≠ [] → (unvisited ids s.visited).card < levels) :
    PlacedAll edges depth s (placeAll edges levels depth s kids).1 kids
      (placeAll edges levels depth s kids).2 := by
  induction kids generalizing s with
  | nil =>
    rw [placeAll]
    exact ⟨.refl edges depth s, List.forall_mem_nil _, List.forall_mem_nil _⟩
  | cons id rest ih =>
    have enough := room (List.cons_ne_nil _ _)
    have first := placed s id (ready id List.mem_cons_self) enough
    have fewer := Finset.card_le_card (unvisited_subset ids first.more.visited)
    have others := ih (s := (place edges levels depth s id).1)
      (fun kid member => (ready kid (List.mem_cons_of_mem _ member)).extend first.more)
      fun _ => fewer.trans_lt enough
    rw [placeAll]
    refine ⟨first.more.trans others.more, fun kid member => ?_, fun slot member => ?_⟩
    · rcases List.mem_cons.1 member with rfl | later
      · exact others.more.visited first.visited
      · exact others.visited kid later
    · rcases List.mem_cons.1 member with rfl | later
      · exact ⟨first.inside.1, first.inside.2.trans others.more.slots⟩
      · have inside := others.inside slot later
        exact ⟨first.more.slots.trans inside.1, inside.2⟩

/-- A node takes its spot after those of its children that had not been visited. -/
theorem PlacedAll.finish {depth : Nat} {s s' : Placing Rat} {id : String} {kids : List String}
    {slots : List Rat} {slot next : Rat}
    (all : PlacedAll edges (depth + 1) { s with visited := id :: s.visited } s' kids slots)
    (chosen : ∀ kid ∈ childrenOf edges id, kid ∈ id :: s.visited ∨ kid ∈ kids)
    (bottom : s.nextSlot ≤ slot) (top : slot + 1 ≤ next) (wider : s'.nextSlot ≤ next) :
    Placed edges depth s { s' with nextSlot := next, spots := (id, ⟨depth, slot⟩) :: s'.spots } id
      slot := by
  have here : id ∈ s'.visited := all.more.visited List.mem_cons_self
  have closed : Closed edges s'.visited id := by
    intro kid child
    rcases chosen kid child with before | now
    · exact all.more.visited before
    · exact all.visited kid now
  obtain ⟨new, spots, fits, named⟩ := all.more.spots
  refine ⟨⟨fun v before => all.more.visited (List.mem_cons_of_mem _ before), fun v visited => ?_,
    all.more.slots.trans wider, (id, ⟨depth, slot⟩) :: new, by rw [spots, List.cons_append],
    fits.cons id bottom top wider, fun v visited => ?_⟩, here, bottom, top⟩
  · rcases all.more.closed v visited with before | closed'
    · rcases List.mem_cons.1 before with rfl | before
      · exact .inr closed
      · exact .inl before
    · exact .inr closed'
  · rw [List.map_cons]
    rcases named v visited with before | now
    · rcases List.mem_cons.1 before with rfl | before
      · exact .inr List.mem_cons_self
      · exact .inl before
    · exact .inr (List.mem_cons_of_mem _ now)

/-- A node stands midway between two of the nodes placed from it, or takes the next slot. -/
theorem place_succ (edges : List Edge) (levels depth : Nat) (s : Placing Rat) (id : String) :
    let below := placeAll edges levels (depth + 1) { s with visited := id :: s.visited }
      ((childrenOf edges id).filter fun kid => !(id :: s.visited).contains kid)
    ∃ slot next, place edges (levels + 1) depth s id =
        ({ below.1 with nextSlot := next, spots := (id, ⟨depth, slot⟩) :: below.1.spots }, slot) ∧
      ((∃ first ∈ below.2, ∃ last ∈ below.2,
          slot = (first + last) / 2 ∧ next = below.1.nextSlot) ∨
        (slot = below.1.nextSlot ∧ next = below.1.nextSlot + 1)) := by
  rw [place]
  rcases placeAll edges levels (depth + 1) { s with visited := id :: s.visited }
    ((childrenOf edges id).filter fun kid => !(id :: s.visited).contains kid) with ⟨s', slots⟩
  dsimp only
  split
  · next first last firstEq lastEq =>
    exact ⟨_, s'.nextSlot, rfl,
      .inl ⟨first, List.mem_of_head? firstEq, last, List.mem_of_getLast? lastEq, rfl, rfl⟩⟩
  · exact ⟨s'.nextSlot, _, rfl, .inr ⟨rfl, rfl⟩⟩

/-- Placing a node that is ready gives it a spot, as long as there are more levels than nodes that have
not been visited. -/
theorem placed (known : ∀ e ∈ edges, e.target ∈ ids) (depth : Nat) {levels : Nat} {s : Placing Rat}
    {id : String} (ready : Ready edges ids s.visited id)
    (room : (unvisited ids s.visited).card < levels) :
    Placed edges depth s (place edges levels depth s id).1 id
      (place edges levels depth s id).2 := by
  induction levels generalizing depth s id with
  | zero => exact absurd room (Nat.not_lt_zero _)
  | succ levels ih =>
    let marked : Placing Rat := { s with visited := id :: s.visited }
    let kids := (childrenOf edges id).filter fun kid => !marked.visited.contains kid
    have fresh : ∀ kid ∈ kids, kid ∈ childrenOf edges id ∧ kid ∉ marked.visited := by
      intro kid member
      simpa [kids] using member
    have kidsReady : ∀ kid ∈ kids, Ready edges ids marked.visited kid := by
      intro kid member
      obtain ⟨child, new⟩ := fresh kid member
      obtain ⟨e, edge, rfl⟩ := List.mem_map.1 child
      exact ⟨known e (List.mem_of_mem_filter edge), .inl new⟩
    -- a node that is placed again has no child left, so only new nodes take up a level
    have kidsRoom : kids ≠ [] → (unvisited ids marked.visited).card < levels := by
      intro some
      obtain ⟨kid, member⟩ := List.exists_mem_of_ne_nil kids some
      obtain ⟨child, new⟩ := fresh kid member
      have first : id ∉ s.visited := ready.2.resolve_right fun closed =>
        new (List.mem_cons_of_mem _ (closed kid child))
      have fewer := card_unvisited_lt ready.1 first
      exact fewer.trans_le (Nat.le_of_lt_succ room)
    have all := placedAll (depth + 1) (fun s id => ih (depth + 1)) kidsReady kidsRoom
    have chosen : ∀ kid ∈ childrenOf edges id, kid ∈ id :: s.visited ∨ kid ∈ kids := by
      intro kid child
      by_cases before : kid ∈ id :: s.visited
      · exact .inl before
      · exact .inr (List.mem_filter.2 ⟨child, by simpa [marked] using before⟩)
    obtain ⟨slot, next, eq, choice⟩ := place_succ edges levels depth s id
    rw [eq]
    rcases choice with ⟨first, firstMem, last, lastMem, rfl, rfl⟩ | ⟨rfl, rfl⟩
    · have left := all.inside first firstMem
      have right := all.inside last lastMem
      exact all.finish chosen (by linarith) (by linarith) le_rfl
    · exact all.finish chosen all.more.slots le_rfl (by linarith)

/-- Placing a root only adds spots, and visits the root. -/
theorem placeRoot_extends (known : ∀ e ∈ edges, e.target ∈ ids) (s : Placing Rat) {id : String}
    (node : id ∈ ids) :
    Extends edges 0 s (placeRoot edges (ids.length + 1) s id) ∧
      id ∈ (placeRoot edges (ids.length + 1) s id).visited := by
  rw [placeRoot]
  split
  · next before => exact ⟨.refl edges 0 s, List.contains_iff_mem.1 before⟩
  · next new =>
    have ready : Ready edges ids s.visited id :=
      ⟨node, .inl fun before => new (List.contains_iff_mem.2 before)⟩
    have here := placed known 0 ready
      (Nat.lt_succ_of_le (card_unvisited_le ids s.visited))
    exact ⟨here.more, here.visited⟩

/-- So does placing many roots. -/
theorem foldl_placeRoot (known : ∀ e ∈ edges, e.target ∈ ids) {roots : List String}
    (nodes : ∀ id ∈ roots, id ∈ ids) (s : Placing Rat) :
    Extends edges 0 s (roots.foldl (placeRoot edges (ids.length + 1)) s) ∧
      ∀ id ∈ roots, id ∈ (roots.foldl (placeRoot edges (ids.length + 1)) s).visited := by
  induction roots generalizing s with
  | nil => exact ⟨.refl edges 0 s, List.forall_mem_nil _⟩
  | cons id rest ih =>
    rw [List.forall_mem_cons] at nodes
    obtain ⟨first, visited⟩ := placeRoot_extends known s nodes.1
    obtain ⟨others, all⟩ := ih nodes.2 (placeRoot edges (ids.length + 1) s id)
    rw [List.foldl_cons]
    exact ⟨first.trans others, List.forall_mem_cons.2 ⟨others.visited visited, all⟩⟩

end Placing

theorem target_mem_of_knownEdges {p : Projection} :
    ∀ e ∈ knownEdges p, e.target ∈ p.nodes.map (·.id) := by
  intro e member
  have ends := (List.mem_filter.1 member).2
  rw [Bool.and_eq_true] at ends
  obtain ⟨n, node, named⟩ := List.any_eq_true.1 ends.2
  exact List.mem_map.2 ⟨n, node, of_decide_eq_true named⟩

/-- Every node gets a spot, and the spots of one layer are apart. -/
theorem spots_spec (p : Projection) :
    (∀ n ∈ p.nodes, n.id ∈ (spots p : List (String × Spot Rat)).map (·.1)) ∧
      (spots p : List (String × Spot Rat)).Pairwise fun a b => a.2.Apart b.2 := by
  have roots : ∀ id ∈ ((p.nodes.map (·.id)).filter fun id => !((knownEdges p).any (·.target = id))) ++
      p.nodes.map (·.id), id ∈ p.nodes.map (·.id) := by
    intro id member
    rcases List.mem_append.1 member with root | node
    · exact List.mem_of_mem_filter root
    · exact node
  obtain ⟨more, visited⟩ := foldl_placeRoot (target_mem_of_knownEdges (p := p)) roots
    { visited := [], nextSlot := Coordinate.ofNat 0, spots := [] }
  obtain ⟨new, spotsEq, fits, named⟩ := more.spots
  have all : spots p = new := spotsEq.trans (List.append_nil new)
  rw [all]
  refine ⟨fun n node => ?_, fits.apart⟩
  exact (named n.id (visited n.id (List.mem_append_right _ (List.mem_map_of_mem node)))).resolve_left
    List.not_mem_nil

end ResourceTree.Layout
