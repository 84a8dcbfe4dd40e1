import ResourceTree.Graph.Layout
import ResourceTree.Tree.Store

/-!
# Requests for layouts

A layout takes time, and the tree may change meanwhile. Every request gets a ticket with a
generation and the version of the tree; a finished layout is accepted only while its ticket is
the latest and the version is the same.
-/

namespace ResourceTree
set_option autoImplicit false

structure Ticket where
  generation : Nat
  root : String
  version : Nat
  deriving DecidableEq, Repr

structure Scheduler (α : Type) where
  /-- The kinds that graphs leave out. -/
  excluded : List String
  options : LayoutOptions α
  generation : Nat

namespace Scheduler

variable {α : Type}

/-- A scheduler without requests. -/
def idle (excluded : List String) (options : LayoutOptions α) : Scheduler α :=
  { excluded, options, generation := 0 }

/-- Issues a ticket; every earlier one is superseded. -/
def request (s : Scheduler α) (root : String) (version : Nat) : Scheduler α × Ticket :=
  let generation := s.generation + 1
  ({ s with generation }, { generation, root, version })

/-- Supersedes every ticket. -/
def cancel (s : Scheduler α) : Scheduler α := { s with generation := s.generation + 1 }

def isCurrent (s : Scheduler α) (t : Ticket) (version : Nat) : Bool :=
  t.generation = s.generation && t.version = version

/-- A finished layout, if its ticket is current. -/
def accept (s : Scheduler α) (t : Ticket) (version : Nat) (layout : Layout α) :
    Option (Layout α) :=
  if s.isCurrent t version then some layout else none

variable [Coordinate α]

/-- The layout of the current tree at a uid. -/
def layoutNow? (s : Scheduler α) (store : Store) (uid : String) : Option (Layout α) :=
  (Projection.ofUid? s.excluded uid store.tree).map (Layout.ofProjection s.options)

/-- Issues a ticket for the graph at a uid and computes its layout. An unknown uid leaves the
outstanding ticket as it is. -/
def spawn? (s : Scheduler α) (store : Store) (uid : String) :
    Option (Scheduler α × Ticket × Layout α) :=
  (Projection.ofUid? s.excluded uid store.tree).map fun p =>
    let (s', t) := s.request p.root store.version
    (s', t, Layout.ofProjection s.options p)

end Scheduler

end ResourceTree
