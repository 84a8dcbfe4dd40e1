import ResourceTree.Graph.Projection

/-!
# Positions of graph nodes

A tidy tree: nodes without children take consecutive slots across the direction of growth, a node
with children stands midway between the first and the last of them, and every layer is one step
further on. The positions depend only on the order of nodes and edges. Coordinates are of any
type with the few operations that are needed.
-/

namespace ResourceTree
set_option autoImplicit false

/-- Arithmetic of coordinates. -/
class Coordinate (α : Type) where
  ofNat : Nat → α
  add : α → α → α
  mul : α → α → α
  half : α → α

instance : Coordinate Float where
  ofNat := Nat.toFloat
  add := (· + ·)
  mul := (· * ·)
  half x := x / 2.0

/-- The sizes and gaps of a layout. -/
structure LayoutOptions (α : Type) where
  direction : Direction
  nodeWidth : α
  nodeHeight : α
  /-- Between neighbours across the direction. -/
  nodeSpacing : α
  /-- Between layers along the direction. -/
  layerSpacing : α

/-- A node with the corner of its box. -/
structure PlacedNode (α : Type) where
  node : GraphNode
  x : α
  y : α

structure Layout (α : Type) where
  nodes : List (PlacedNode α) := []
  edges : List Edge := []

namespace Layout

variable {α : Type}

/-- The placed node of an id. -/
def node? (id : String) (l : Layout α) : Option (PlacedNode α) :=
  l.nodes.find? (·.node.id = id)

/-- Layer and slot of a node. -/
structure Spot (α : Type) where
  depth : Nat
  slot : α

/-- What has been placed; `visited` are the nodes whose placing has at least begun. -/
structure Placing (α : Type) where
  visited : List String
  nextSlot : α
  spots : List (String × Spot α)

/-- The edges between known nodes. -/
def knownEdges (p : Projection) : List Edge :=
  p.edges.filter fun e => p.containsNode e.source && p.containsNode e.target

/-- The targets of the edges that leave a node. -/
def childrenOf (edges : List Edge) (id : String) : List String :=
  (edges.filter (·.source = id)).map (·.target)

variable [Coordinate α]

mutual

/-- Places a node and, before it, those of its children that are not yet visited; gives its slot.
Along a chain of children more and more nodes are visited, so `levels` is bounded by their
number. -/
def place (edges : List Edge) : Nat → Nat → Placing α → String → Placing α × α
  | 0, _, s, _ => (s, s.nextSlot)
  | levels + 1, depth, s, id =>
    let s := { s with visited := id :: s.visited }
    let kids := (childrenOf edges id).filter fun kid => !s.visited.contains kid
    let (s, slots) := placeAll edges levels (depth + 1) s kids
    match slots.head?, slots.getLast? with
    | some first, some last =>
      let slot := Coordinate.half (Coordinate.add first last)
      ({ s with spots := (id, ⟨depth, slot⟩) :: s.spots }, slot)
    | _, _ =>
      let slot := s.nextSlot
      ({ s with nextSlot := Coordinate.add slot (Coordinate.ofNat 1)
                spots := (id, ⟨depth, slot⟩) :: s.spots }, slot)
  termination_by levels => (levels, 0)

/-- Places nodes one after the other and gives their slots. -/
def placeAll (edges : List Edge) (levels depth : Nat) (s : Placing α) :
    List String → Placing α × List α
  | [] => (s, [])
  | id :: rest =>
    let (s, slot) := place edges levels depth s id
    let (s, slots) := placeAll edges levels depth s rest
    (s, slot :: slots)
  termination_by ids => (levels, ids.length + 1)

end

/-- Places a node at the first layer unless it has been placed. -/
def placeRoot (edges : List Edge) (levels : Nat) (s : Placing α) (id : String) : Placing α :=
  if s.visited.contains id then s else (place edges levels 0 s id).1

/-- The spots of all nodes: first the trees of nodes without an incoming edge, then those of
nodes that only a cycle leads to. -/
def spots (p : Projection) : List (String × Spot α) :=
  let edges := knownEdges p
  let ids := p.nodes.map (·.id)
  let roots := ids.filter fun id => !(edges.any (·.target = id))
  let start : Placing α := { visited := [], nextSlot := Coordinate.ofNat 0, spots := [] }
  ((roots ++ ids).foldl (placeRoot edges (ids.length + 1)) start).spots

/-- The box of a node at a spot. -/
def position (o : LayoutOptions α) (spot : Spot α) : α × α :=
  let along (size : α) : α :=
    Coordinate.mul (Coordinate.ofNat spot.depth) (Coordinate.add size o.layerSpacing)
  let across (size : α) : α := Coordinate.mul spot.slot (Coordinate.add size o.nodeSpacing)
  match o.direction with
  | .right => (along o.nodeWidth, across o.nodeHeight)
  | .down => (across o.nodeWidth, along o.nodeHeight)

/-- The layout of a graph. -/
def ofProjection (o : LayoutOptions α) (p : Projection) : Layout α :=
  let placed := spots p
  { nodes := p.nodes.map fun n =>
      let spot := ((placed.find? (·.1 = n.id)).map (·.2)).getD ⟨0, Coordinate.ofNat 0⟩
      let (x, y) := position o spot
      { node := n, x, y }
    edges := p.edges }

end Layout

end ResourceTree
