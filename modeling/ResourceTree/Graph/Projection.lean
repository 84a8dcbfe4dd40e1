import ResourceTree.Tree.Walk

/-!
# Graphs of subtrees

The nodes and edges that a graph view of a subtree shows. The walk emits each uid once and passes
over excluded kinds, below which it goes on; an application inside the graph is shown collapsed,
without what it holds. Of several parents of a node the one walked last keeps the edge.
-/

namespace ResourceTree
set_option autoImplicit false

/-- A node of a graph; `id` is the uid that it stands for. -/
structure GraphNode where
  id : String
  kind : String
  name : String
  ns : Option String
  status : Status
  deriving DecidableEq, Repr

namespace GraphNode

def ofResource (r : Resource) : GraphNode :=
  { id := r.uid, kind := r.kind, name := r.name, ns := r.ns, status := r.status }

/-- What the node is drawn as. -/
def type (n : GraphNode) : NodeType := .ofKind n.kind

end GraphNode

structure Edge where
  source : String
  target : String
  deriving DecidableEq, Repr

/-- The name of an edge. -/
def Edge.id (e : Edge) : String := e.source ++ "-" ++ e.target

/-- A graph without positions. -/
structure Projection where
  root : String
  /-- In the order of the walk. -/
  nodes : List GraphNode := []
  edges : List Edge := []
  deriving DecidableEq, Repr

namespace Projection

/-- Whether a uid has a node. -/
def containsNode (uid : String) (p : Projection) : Bool := p.nodes.any (·.id = uid)

def edgesInto (uid : String) (p : Projection) : List Edge := p.edges.filter (·.target = uid)

/-- Adds an edge; any other edge into its target gives way. -/
def attach (edges : List Edge) (e : Edge) : List Edge :=
  edges.filter (·.target ≠ e.target) ++ [e]

/-- The edges with those from a node to the children that are not of an excluded kind. -/
def attachChildren (excluded : List String) (edges : List Edge) (t : Tree) : List Edge :=
  ((t.children.filter fun c => !excluded.contains c.resource.kind).map
    fun c => { source := t.uid, target := c.uid : Edge}).foldl attach edges

/-- Shows one node to the walk. -/
def visit (excluded : List String) (p : Projection) (t : Tree) (depth : Nat) :
    Projection × Visit :=
  if excluded.contains t.resource.kind || p.containsNode t.uid then (p, .proceed)
  else
    let p := { p with nodes := p.nodes ++ [.ofResource t.resource] }
    if t.resource.isOfKind Kind.isBoundary && 0 < depth then (p, .skipChildren)
    else ({ p with edges := attachChildren excluded p.edges t }, .proceed)

/-- The graph of a subtree. -/
def ofTree (excluded : List String) (start : Tree) : Projection :=
  start.walk (visit excluded) { root := start.uid }

/-- The graph of the subtree at a uid; the empty uid means the whole tree. -/
def ofUid? (excluded : List String) (uid : String) (t : Tree) : Option Projection :=
  (t.resolve? uid).map (ofTree excluded)

end Projection

end ResourceTree
