import ResourceTree.Tree.Store

/-!
# Runs of a store

The changes of single nodes as data, and with them everything that can be done to a store, so that
a history of a store is a list.
-/

namespace ResourceTree
set_option autoImplicit false

/-- A change of one node, as it is sent. -/
inductive Delta where
  | add (t : Tree)
  | update (t : Tree)
  | remove (uid : String) (parentId : Option String)

/-- The uid that a change names as the parent. -/
def Delta.parentId : Delta → Option String
  | .add t | .update t => t.resource.parentId
  | .remove _ parentId => parentId

namespace Store

def apply (s : Store) : Delta → Store × Mutation
  | .add t => s.add t
  | .update t => s.update t
  | .remove uid parentId => s.remove uid parentId

/-- The stores that deltas lead through, one after each of them. -/
def trail (s : Store) : List Delta → List Store
  | [] => []
  | d :: ds => (s.apply d).1 :: (s.apply d).1.trail ds

/-- Anything that can be done to a store. -/
inductive Operation where
  | replaceTree (t : Tree)
  | delta (d : Delta)
  | setFlags (uid : String) (reconciling suspended : Option Bool)
  | appendLog (uid : String) (line : LogLine)
  | select (uid : String)
  | clearSelection
  /-- Asking for the listings, which keeps them for the next time. -/
  | derivedViews

/-- Whether an operation leaves the nodes of the tree where they are. -/
def Operation.isLocal : Operation → Bool
  | .replaceTree _ | .delta _ => false
  | .setFlags .. | .appendLog .. | .select _ | .clearSelection | .derivedViews => true

/-- The store after an operation; one that finds no node leaves it as it is. -/
def perform (s : Store) : Operation → Store
  | .replaceTree t => s.replaceTree t
  | .delta d => (s.apply d).1
  | .setFlags uid reconciling suspended => (s.setFlags uid reconciling suspended).1
  | .appendLog uid line => (s.appendLog? uid line).getD s
  | .select uid => (s.select? uid).getD s
  | .clearSelection => s.clearSelection
  | .derivedViews => s.derivedViews.1

/-- The store after a history. -/
def run (s : Store) (history : List Operation) : Store := history.foldl perform s

end Store

end ResourceTree
