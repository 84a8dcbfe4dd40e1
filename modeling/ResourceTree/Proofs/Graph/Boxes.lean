import Mathlib.Data.List.Pairwise
import Mathlib.Data.Set.Prod
import Mathlib.Order.CompletePartialOrder
import Mathlib.Tactic.Ring
import ResourceTree.Proofs.Graph.Placing

/-!
# Boxes of a layout

Every node of a graph gets a box at its spot. Spots in different layers are a full step apart along
the direction of growth, and spots in one layer are a full step apart across it, so boxes that are no
larger than a step do not meet, whatever the edges of the graph are.
-/

namespace ResourceTree
set_option autoImplicit false

/-- The points that the box of a node covers. -/
def PlacedNode.box (o : LayoutOptions Rat) (n : PlacedNode Rat) : Set (Rat × Rat) :=
  Set.Ico n.x (n.x + o.nodeWidth) ×ˢ Set.Ico n.y (n.y + o.nodeHeight)

namespace Layout

/-- The spot at which a node is placed. -/
def spot? (p : Projection) (id : String) : Option (Spot Rat) :=
  ((spots p).find? (·.1 = id)).map (·.2)

variable {p : Projection}

theorem exists_spot {n : GraphNode} (node : n ∈ p.nodes) : ∃ spot, spot? p n.id = some spot := by
  obtain ⟨e, entry, named⟩ := List.mem_map.1 ((spots_spec p).1 n node)
  have found : ((spots p : List (String × Spot Rat)).find? (·.1 = n.id)).isSome = true :=
    List.find?_isSome.2 ⟨e, entry, decide_eq_true named⟩
  obtain ⟨e', there⟩ := Option.isSome_iff_exists.1 found
  exact ⟨e'.2, by rw [spot?, there, Option.map_some]⟩

theorem mem_spots_of_spot? {id : String} {spot : Spot Rat} (h : spot? p id = some spot) :
    (id, spot) ∈ (spots p : List (String × Spot Rat)) := by
  obtain ⟨e, found, rfl⟩ := Option.map_eq_some_iff.1 h
  have named : e.1 = id := by simpa using List.find?_some found
  rw [← named]
  exact List.mem_of_find?_eq_some found

/-- The spots of different nodes are apart. -/
theorem spot?_apart {id id' : String} {spot spot' : Spot Rat} (h : spot? p id = some spot)
    (h' : spot? p id' = some spot') (other : id ≠ id') : spot.Apart spot' := by
  have symmetric : Std.Symm fun a b : String × Spot Rat => a.2.Apart b.2 :=
    ⟨fun _ _ apart => apart.symm⟩
  exact (spots_spec p).2.forall (mem_spots_of_spot? h) (mem_spots_of_spot? h')
    fun same => other (congrArg Prod.fst same)

/-- A placed node stands at its spot. -/
theorem mem_ofProjection {o : LayoutOptions Rat} {n : PlacedNode Rat}
    (placed : n ∈ (ofProjection o p).nodes) :
    n.node ∈ p.nodes ∧ ∃ spot, spot? p n.node.id = some spot ∧ (n.x, n.y) = position o spot := by
  obtain ⟨node, member, rfl⟩ := List.mem_map.1 placed
  obtain ⟨spot, there⟩ := exists_spot member
  refine ⟨member, spot, there, ?_⟩
  change position o ((spot? p node.id).getD ⟨0, Coordinate.ofNat 0⟩) = position o spot
  rw [there, Option.getD_some]

section Boxes

/-- Stretches of one size do not meet if they start at multiples of a step that are one apart. -/
theorem disjoint_steps {a b size gap : Rat} (apart : a + 1 ≤ b ∨ b + 1 ≤ a) (positive : 0 < size)
    (spaced : 0 ≤ gap) :
    Disjoint (Set.Ico (a * (size + gap)) (a * (size + gap) + size))
      (Set.Ico (b * (size + gap)) (b * (size + gap) + size)) := by
  have step : ∀ a b : Rat, a + 1 ≤ b → a * (size + gap) + size ≤ b * (size + gap) := by
    intro a b apart
    have stretched := mul_le_mul_of_nonneg_right apart (by linarith : 0 ≤ size + gap)
    linarith
  rw [Set.disjoint_left]
  intro x left right
  rcases apart with after | before
  · have bound := step a b after
    linarith [left.2, right.1]
  · have bound := step b a before
    linarith [left.1, right.2]

variable {o : LayoutOptions Rat} (width : 0 < o.nodeWidth) (height : 0 < o.nodeHeight)
  (spacing : 0 ≤ o.nodeSpacing) (layers : 0 ≤ o.layerSpacing)
include width height spacing layers

/-- Boxes at spots that are apart do not meet. -/
theorem box_disjoint {a b : Spot Rat} (apart : a.Apart b) {n m : PlacedNode Rat}
    (left : (n.x, n.y) = position o a) (right : (m.x, m.y) = position o b) :
    Disjoint (n.box o) (m.box o) := by
  rw [PlacedNode.box, PlacedNode.box, Set.disjoint_prod]
  rw [position] at left right
  by_cases layer : a.depth = b.depth
  · have across := apart layer
    cases direction : o.direction with
    | right =>
      rw [direction] at left right
      rw [(Prod.mk.inj left).2, (Prod.mk.inj right).2]
      exact .inr (disjoint_steps across height spacing)
    | down =>
      rw [direction] at left right
      rw [(Prod.mk.inj left).1, (Prod.mk.inj right).1]
      exact .inl (disjoint_steps across width spacing)
  · have along : (a.depth : Rat) + 1 ≤ b.depth ∨ (b.depth : Rat) + 1 ≤ a.depth := by
      exact_mod_cast Nat.lt_or_gt_of_ne layer
    cases direction : o.direction with
    | right =>
      rw [direction] at left right
      rw [(Prod.mk.inj left).1, (Prod.mk.inj right).1]
      exact .inl (disjoint_steps along width layers)
    | down =>
      rw [direction] at left right
      rw [(Prod.mk.inj left).2, (Prod.mk.inj right).2]
      exact .inr (disjoint_steps along height layers)

/-- Every node is placed at a spot of its own, and the boxes of different nodes do not meet. -/
theorem ofProjection_disjoint (distinct : (p.nodes.map (·.id)).Nodup) :
    let l := ofProjection o p
    l.nodes.map (·.node) = p.nodes ∧
      (∀ n ∈ l.nodes, ∃ spot, spot? p n.node.id = some spot ∧ (n.x, n.y) = position o spot) ∧
      l.nodes.Pairwise fun a b => Disjoint (a.box o) (b.box o) := by
  intro l
  have nodes : l.nodes.map (·.node) = p.nodes := by
    rw [show l.nodes = p.nodes.map _ from rfl, List.map_map]
    exact List.map_id p.nodes
  refine ⟨nodes, fun n placed => (mem_ofProjection placed).2, ?_⟩
  have others : l.nodes.Pairwise fun a b => a.node.id ≠ b.node.id := by
    rw [← nodes, List.map_map] at distinct
    exact List.pairwise_map.1 distinct
  refine others.imp_of_mem fun {a b} left right other => ?_
  obtain ⟨_, spot, there, corner⟩ := mem_ofProjection left
  obtain ⟨_, spot', there', corner'⟩ := mem_ofProjection right
  exact box_disjoint width height spacing layers (spot?_apart there there' other) corner corner'

end Boxes

/-- A child of two parents that leads to itself, one of its edges given twice, two nodes in a circle, and
an edge to an id that has no node. -/
def tangle : Projection where
  root := "top"
  nodes := ["top", "left", "right", "shared", "ring", "gear"].map fun id =>
    { id, kind := "ConfigMap", name := id, ns := none, status := .unknown }
  edges := [⟨"top", "left"⟩, ⟨"top", "right"⟩, ⟨"left", "shared"⟩, ⟨"left", "shared"⟩,
    ⟨"right", "shared"⟩, ⟨"shared", "shared"⟩, ⟨"ring", "gear"⟩, ⟨"gear", "ring"⟩, ⟨"top", "gone"⟩]

theorem ofProjection_disjoint_tangle :
    let o : LayoutOptions Rat :=
      { direction := .down, nodeWidth := 2, nodeHeight := 1, nodeSpacing := 0, layerSpacing := 1 }
    let l := ofProjection o tangle
    (tangle.nodes.map (·.id)).Nodup ∧ 0 < o.nodeWidth ∧ 0 < o.nodeHeight ∧ 0 ≤ o.nodeSpacing ∧
      0 ≤ o.layerSpacing ∧
      l.nodes.map (fun n => (n.node.id, n.x, n.y)) =
        [("top", 5 / 2, 0), ("left", 1, 2), ("right", 4, 2), ("shared", 2, 4), ("ring", 6, 0),
          ("gear", 6, 2)] ∧
      l.nodes.map (·.node) = tangle.nodes ∧
      l.nodes.Pairwise fun a b => Disjoint (a.box o) (b.box o) := by
  intro o l
  have distinct : (tangle.nodes.map (·.id)).Nodup := by decide
  have sizes : 0 < o.nodeWidth ∧ 0 < o.nodeHeight ∧ 0 ≤ o.nodeSpacing ∧ 0 ≤ o.layerSpacing := by
    decide +kernel
  obtain ⟨width, height, spacing, layers⟩ := sizes
  have corners : l.nodes.map (fun n => (n.node.id, n.x, n.y)) =
      [("top", 5 / 2, 0), ("left", 1, 2), ("right", 4, 2), ("shared", 2, 4), ("ring", 6, 0),
        ("gear", 6, 2)] := by
    simp [l, o, ofProjection, position, spots, placeRoot, place, placeAll, childrenOf, knownEdges,
      Projection.containsNode, tangle]
    norm_num [Coordinate.ofNat, Coordinate.add, Coordinate.mul, Coordinate.half]
  obtain ⟨nodes, -, boxes⟩ := ofProjection_disjoint width height spacing layers distinct
  exact ⟨distinct, width, height, spacing, layers, corners, nodes, boxes⟩

end Layout

end ResourceTree
