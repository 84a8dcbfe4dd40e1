import ResourceTree.Tree.Basic

/-!
# Walking and searching a tree

The walk that visits nodes in pre-order and lets the visitor prune what lies below a node, the
look-ups by uid, the chain of reconciled ancestors, the listings by kind, and two ways to compare
trees: by fingerprint and up to the order of siblings.
-/

namespace ResourceTree
set_option autoImplicit false

/-- A visitor's verdict on the node that it was shown. -/
inductive Visit where
  | proceed
  | skipChildren
  deriving DecidableEq, Repr

namespace Tree

/-- The nodes that a stack of trees still holds. -/
def stackSize (stack : List (Tree × Nat)) : Nat :=
  sizeList (stack.map (·.1))

theorem sizeList_append (ts us : List Tree) : sizeList (ts ++ us) = sizeList ts + sizeList us := by
  induction ts with
  | nil => simp [sizeList]
  | cons t rest ih => simp only [List.cons_append, sizeList, ih]; omega

/-- Siblings at one depth, as they are put on the stack. -/
def atDepth (depth : Nat) (ts : List Tree) : List (Tree × Nat) := ts.map (·, depth)

theorem stackSize_push (cs : List Tree) (depth : Nat) (rest : List (Tree × Nat)) :
    stackSize (atDepth depth cs ++ rest) = sizeList cs + stackSize rest := by
  simp [stackSize, atDepth, sizeList_append, Function.comp_def]

/-- Visits the trees of a stack, each with its depth: a node is taken off the top and, unless the
visitor prunes it, its children are put in its place. -/
def walkStack {σ : Type} (visit : σ → Tree → Nat → σ × Visit) (s : σ) :
    List (Tree × Nat) → σ
  | [] => s
  | (node r cs, depth) :: rest =>
    match visit s (node r cs) depth with
    | (s', .skipChildren) => walkStack visit s' rest
    | (s', .proceed) => walkStack visit s' (atDepth (depth + 1) cs ++ rest)
  termination_by stack => stackSize stack
  decreasing_by
    · simp only [stackSize, List.map_cons, sizeList, size]; omega
    · rw [stackSize_push]; simp only [stackSize, List.map_cons, sizeList, size]; omega

/-- Visits a tree in pre-order, its root at depth zero. -/
def walk {σ : Type} (visit : σ → Tree → Nat → σ × Visit) (s : σ) (t : Tree) : σ :=
  walkStack visit s [(t, 0)]

/-- Whether a uid occurs. -/
def contains (uid : String) (t : Tree) : Bool := (t.find? uid).isSome

/-- The node of a uid; the empty uid means the root. -/
def resolve? (uid : String) (t : Tree) : Option Tree :=
  if uid = "" then some t else t.find? uid

mutual

/-- Searches a tree for a uid with what stands above the tree on a path, the root first: whether the uid
was found, and the path at that moment. A node is on the path while its children are searched, and is
taken off again if they do not have the uid. -/
def searchPath (uid : String) (path : List Resource) : Tree → Bool × List Resource
  | node r cs =>
    if r.uid = uid then (true, path)
    else match searchPathList uid (path ++ [r]) cs with
      | (true, path) => (true, path)
      | (false, path) => (false, path.dropLast)

/-- The same with siblings, one after the other until the uid is found. -/
def searchPathList (uid : String) (path : List Resource) : List Tree → Bool × List Resource
  | [] => (false, path)
  | t :: rest =>
    match searchPath uid path t with
    | (true, path) => (true, path)
    | (false, path) => searchPathList uid path rest

end

/-- The reconciled nodes above a uid, root first; none for a uid that is empty or absent. -/
def fluxParents (uid : String) (t : Tree) : List Resource :=
  if uid = "" then []
  else match t.searchPath uid [] with
    | (true, path) => path.filter (·.metadata.flux?.isSome)
    | (false, _) => []

/-- The resources in tree order that are of a dedicated kind with a property; tombstones are left
out. -/
def ofKind (p : Kind → Bool) (t : Tree) : List Resource :=
  t.resources.filter fun r => !r.isTombstone && r.isOfKind p

def applications (t : Tree) : List Resource := t.ofKind Kind.isApplication

def repositories (t : Tree) : List Resource := t.ofKind Kind.isRepository

/-- Resources in the order of their names; those of one name keep their order. -/
def byName (rs : List Resource) : List Resource :=
  rs.mergeSort fun a b => a.name ≤ b.name

/-- The controller deployments right below the root, by name. -/
def controllers (ns : String) (t : Tree) : List Resource :=
  byName ((t.children.map resource).filter fun r =>
    r.kind = Kind.deployment.name && r.ns = some ns)

/-- The first repository that a source reference fits; a reference without namespace fits any. -/
def repositoryOf? (s : SourceRef) (t : Tree) : Option Resource :=
  t.repositories.find? fun r =>
    r.kind = s.kind && r.name = s.name && (s.ns.isNone || r.ns = s.ns)

/-- One entry of a fingerprint: uid, status and number of children. -/
def fingerprintEntry (t : Tree) : String :=
  t.uid ++ ":" ++ t.resource.status.name ++ ":" ++ toString t.children.length

/-- The entries of all nodes in pre-order. -/
def fingerprint (t : Tree) : String :=
  ";".intercalate (t.subtrees.map fingerprintEntry)

/-- The elements that repeat an earlier one, each where it does so first. -/
def repeated (seen : List String) : List String → List String → List String
  | found, [] => found
  | found, uid :: rest =>
    if seen.contains uid then
      repeated seen (if found.contains uid then found else found ++ [uid]) rest
    else repeated (uid :: seen) found rest

/-- The uids that occur more than once. -/
def duplicateUids (t : Tree) : List String := repeated [] [] t.uids

/-- Whether nothing has arrived yet. -/
def isEmpty (t : Tree) : Bool := t.uid = "" && t.children.isEmpty

/-- Siblings in the order of their uids; those of one uid keep their order. -/
def sortByUid (ts : List Tree) : List Tree :=
  ts.mergeSort fun a b => a.uid ≤ b.uid

mutual

/-- The tree with all siblings in the order of their uids. -/
def canonical : Tree → Tree
  | node r cs => node r (sortByUid (canonicalList cs))

def canonicalList : List Tree → List Tree
  | [] => []
  | t :: rest => canonical t :: canonicalList rest

end

/-- Equal resources and parent links, whatever the order of siblings. -/
def structurallyEqual (t u : Tree) : Bool := t.canonical == u.canonical

end Tree

end ResourceTree
