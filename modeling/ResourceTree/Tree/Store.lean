import ResourceTree.Tree.Walk

/-!
# The tree as it is kept up to date

A store holds the current tree, a version that grows with every structural change, and the
selected node. Snapshots replace the tree, deltas change single nodes below a named parent, and a
delta that does not fit the tree changes nothing and says why. Listings are computed once for
each version.
-/

namespace ResourceTree
set_option autoImplicit false

/-- What a delta did. -/
inductive Mutation where
  | applied
  | missingParent
  | missingNode
  | tombstonedParent
  | duplicateUid
  deriving DecidableEq, Repr

def Mutation.name : Mutation → String
  | applied => "Applied"
  | missingParent => "MissingParent"
  | missingNode => "MissingNode"
  | tombstonedParent => "TombstonedParent"
  | duplicateUid => "DuplicateUid"

/-- A row of a listing. -/
structure Row where
  uid : String
  name : String
  kind : String
  ns : Option String
  status : Status
  isSuspended : Bool
  isReconciling : Bool
  deriving DecidableEq, Repr

namespace Row

def ofResource (r : Resource) : Row :=
  { uid := r.uid, name := r.name, kind := r.kind, ns := r.ns, status := r.status
    isSuspended := r.metadata.flux?.any (·.isSuspended)
    isReconciling := r.metadata.flux?.any (·.isReconciling) }

/-- Rows in the order of their names. -/
def byName (rows : List Row) : List Row :=
  rows.mergeSort fun a b => a.name ≤ b.name

end Row

/-- The listings of one version. -/
structure Views where
  version : Nat
  applications : List Row
  repositories : List Row
  controllers : List Row
  deriving DecidableEq, Repr

structure Store where
  tree : Tree
  version : Nat
  selected : Option String
  /-- The namespace of the controllers and of the root. -/
  fluxNamespace : String
  /-- The log lines that a node keeps. -/
  logBuffer : Nat
  /-- The listings that were computed last. -/
  views : Option Views

namespace Store

/-- A store before the first snapshot. -/
def empty (fluxNamespace : String) (logBuffer : Nat) : Store :=
  { tree := .placeholder, version := 0, selected := none, fluxNamespace, logBuffer, views := none }

/-- A structural change: another tree and the next version. -/
def change (s : Store) (tree : Tree) : Store :=
  { s with tree, version := s.version + 1 }

/-- The store without a selection that its tree does not hold. -/
def dropStaleSelection (s : Store) : Store :=
  if s.selected.any fun uid => !s.tree.contains uid then { s with selected := none } else s

/-- Takes a snapshot. A selection stays if the new tree holds its uid. -/
def replaceTree (s : Store) (tree : Tree) : Store :=
  (s.change tree).dropStaleSelection

/-- The child of a list with a uid, replaced by what it becomes. -/
def mergeChild (incoming : Resource) : List Tree → List Tree
  | [] => []
  | .node r cs :: rest =>
    if r.uid = incoming.uid then .node (r.merge incoming) cs :: rest
    else .node r cs :: mergeChild incoming rest

/-- A tree with its children changed. -/
def onChildren (f : List Tree → List Tree) : Tree → Tree
  | .node r cs => .node r (f cs)

/-- The node that a delta names as parent, unless there is none or it is a tombstone. -/
def parentOf (s : Store) (parentId : Option String) : Except Mutation Tree :=
  match parentId.bind fun uid => s.tree.find? uid with
  | none => .error .missingParent
  | some parent => if parent.resource.isTombstone then .error .tombstonedParent else .ok parent

/-- The store with the children of a parent changed. -/
def changeChildren (s : Store) (parent : Tree) (f : List Tree → List Tree) : Store :=
  s.change (s.tree.modify parent.uid (onChildren f))

/-- Adds a tree below its parent. One whose uid is there already is taken for an update of it. -/
def add (s : Store) (t : Tree) : Store × Mutation :=
  match s.parentOf t.resource.parentId with
  | .error m => (s, m)
  | .ok parent =>
    if parent.children.any (·.uid = t.uid) then
      (s.changeChildren parent (mergeChild t.resource), .applied)
    else if t.uids.any fun uid => s.tree.contains uid then (s, .duplicateUid)
    else (s.changeChildren parent (· ++ [t]), .applied)

/-- The name of the application at the root. -/
def rootName : String := "flux-system"

/-- Whether an update is about the root: it has the root's uid, or it is the application that
always stands there. -/
def targetsRoot (s : Store) (r : Resource) : Bool :=
  (r.uid ≠ "" && s.tree.uid = r.uid)
    || (r.name = rootName && r.kind = Kind.kustomization.name && r.ns = some s.fluxNamespace)

/-- The root after an update; a root without uid takes that of the update. -/
def mergeRoot (incoming : Resource) : Tree → Tree
  | .node r cs =>
    let r := if r.uid = "" then { r with uid := incoming.uid } else r
    .node (r.merge { incoming with parentId := none }) cs

/-- Updates a node; what stands below the update is passed over. -/
def update (s : Store) (t : Tree) : Store × Mutation :=
  if s.targetsRoot t.resource then (s.change (mergeRoot t.resource s.tree), .applied)
  else match s.parentOf t.resource.parentId with
    | .error m => (s, m)
    | .ok parent =>
      if parent.children.any (·.uid = t.uid) then
        (s.changeChildren parent (mergeChild t.resource), .applied)
      else (s, .missingNode)

/-- Removes a child of a parent with all that stands below it. -/
def remove (s : Store) (uid : String) (parentId : Option String) : Store × Mutation :=
  match s.parentOf parentId with
  | .error m => (s, m)
  | .ok parent =>
    if parent.children.any (·.uid = uid) then
      ((s.changeChildren parent (·.eraseP (·.uid = uid))).dropStaleSelection, .applied)
    else (s, .missingNode)

/-- Applications by name. -/
def applications (s : Store) : List Resource := Tree.byName s.tree.applications

/-- Repositories by name. -/
def repositories (s : Store) : List Resource := Tree.byName s.tree.repositories

def controllers (s : Store) : List Resource := s.tree.controllers s.fluxNamespace

/-- The listings of the current tree. -/
def freshViews (s : Store) : Views :=
  { version := s.version
    applications := Row.byName (s.tree.applications.map Row.ofResource)
    repositories := Row.byName (s.tree.repositories.map Row.ofResource)
    controllers := Row.byName (s.controllers.map Row.ofResource) }

/-- The listings that were computed for the current version, if they were. -/
def cachedViews? (s : Store) : Option Views := s.views.filter (·.version = s.version)

/-- The listings of the current version, computed unless they have been. -/
def derivedViews (s : Store) : Store × Views :=
  match s.cachedViews? with
  | some v => (s, v)
  | none => ({ s with views := some s.freshViews }, s.freshViews)

/-- Selects a node; the empty uid selects the root. -/
def select? (s : Store) (uid : String) : Option Store :=
  (s.tree.resolve? uid).map fun t => { s with selected := some t.uid }

def clearSelection (s : Store) : Store := { s with selected := none }

/-- The selected node as it is now. -/
def selectedNode? (s : Store) : Option Tree := s.selected.bind fun uid => s.tree.find? uid

/-- A tree with a log line put in front at its root. -/
def prependLog (buffer : Nat) (line : LogLine) : Tree → Tree
  | .node r cs => .node { r with logs := (line :: r.logs).take buffer } cs

/-- Puts a log line in front of those of a node. This is no structural change. -/
def appendLog? (s : Store) (uid : String) (line : LogLine) : Option Store :=
  if s.tree.contains uid then
    some { s with tree := s.tree.modify uid (prependLog s.logBuffer line) }
  else none

/-- A tree with another reconcile state at its root. -/
def putFlux (flux : Flux) : Tree → Tree
  | .node r cs => .node { r with metadata := r.metadata.withFlux flux } cs

/-- What setting the reconcile flags of a node found. -/
inductive FlagResult where
  | notFound
  /-- The node has no reconcile state. -/
  | notReconciled
  | changed (previous : Flux)

/-- Sets reconcile flags of a node, those that are given. -/
def setFlags (s : Store) (uid : String) (reconciling suspended : Option Bool) :
    Store × FlagResult :=
  match s.tree.find? uid with
  | none => (s, .notFound)
  | some t => match t.resource.metadata.flux? with
    | none => (s, .notReconciled)
    | some previous =>
      let flux := { previous with
        isReconciling := reconciling.getD previous.isReconciling
        isSuspended := suspended.getD previous.isSuspended }
      (s.change (s.tree.modify uid (putFlux flux)), .changed previous)

end Store

end ResourceTree
