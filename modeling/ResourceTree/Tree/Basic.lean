import ResourceTree.Resource.Basic

/-!
# Resource trees

A resource with the resources below it. The functions here walk the whole tree in pre-order, a
node before its children and these from left to right.
-/

namespace ResourceTree
set_option autoImplicit false

/-- A resource and, in order, the trees below it. -/
inductive Tree where
  | node (resource : Resource) (children : List Tree)

namespace Tree

def resource : Tree → Resource
  | node r _ => r

def children : Tree → List Tree
  | node _ cs => cs

def uid (t : Tree) : String := t.resource.uid

/-- What stands before the first snapshot. -/
def placeholder : Tree := node .placeholder []

mutual

def beq : Tree → Tree → Bool
  | node r cs, node r' cs' => decide (r = r') && beqList cs cs'

def beqList : List Tree → List Tree → Bool
  | [], [] => true
  | t :: rest, t' :: rest' => beq t t' && beqList rest rest'
  | _, _ => false

end

instance : BEq Tree := ⟨beq⟩

mutual

/-- The number of nodes. -/
def size : Tree → Nat
  | node _ cs => 1 + sizeList cs

def sizeList : List Tree → Nat
  | [] => 0
  | t :: rest => size t + sizeList rest

end

mutual

/-- All nodes in pre-order, each with the tree below it. -/
def subtrees : Tree → List Tree
  | node r cs => node r cs :: subtreesList cs

def subtreesList : List Tree → List Tree
  | [] => []
  | t :: rest => subtrees t ++ subtreesList rest

end

/-- All resources in pre-order. -/
def resources (t : Tree) : List Resource := t.subtrees.map resource

/-- All uids in pre-order. -/
def uids (t : Tree) : List String := t.subtrees.map uid

mutual

/-- The first node in pre-order with a uid. -/
def find? (uid : String) : Tree → Option Tree
  | node r cs => if r.uid = uid then some (node r cs) else findList? uid cs

def findList? (uid : String) : List Tree → Option Tree
  | [] => none
  | t :: rest => (find? uid t).or (findList? uid rest)

end

mutual

/-- The tree with another node in place of the first one in pre-order with a uid. -/
def modify (uid : String) (f : Tree → Tree) : Tree → Tree
  | node r cs => if r.uid = uid then f (node r cs) else node r (modifyList uid f cs)

def modifyList (uid : String) (f : Tree → Tree) : List Tree → List Tree
  | [] => []
  | t :: rest =>
    if (find? uid t).isSome then modify uid f t :: rest else t :: modifyList uid f rest

end

end Tree

end ResourceTree
