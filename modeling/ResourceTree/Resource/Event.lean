import ResourceTree.Instant

/-!
# Cluster events

What has been observed about a resource, and the rule by which an older list of events takes up a
newer one.
-/

namespace ResourceTree
set_option autoImplicit false

inductive EventType where
  | normal
  | warning
  deriving DecidableEq, Repr

namespace EventType

def name : EventType → String
  | normal => "Normal"
  | warning => "Warning"

/-- Every word but `Normal` is a warning. -/
def ofWord (s : String) : EventType :=
  if s = "Normal" then normal else warning

end EventType

/-- An event; `resourceUid` names the resource that it is about. -/
structure Event where
  uid : String
  kind : String
  name : String
  ns : String
  reason : String
  message : String
  /-- The component that reports it. -/
  source : String
  type : EventType
  firstObserved : Instant
  lastObserved : Instant
  /-- How often it was observed. -/
  count : Int
  resourceUid : String
  deriving DecidableEq, Repr

namespace Event

def isWarning (e : Event) : Bool := e.type = .warning

/-- The events a resource keeps at most. -/
def cap : Nat := 100

/-- The latest observed first; events observed at one time keep their order. -/
def newestFirst (events : List Event) : List Event :=
  events.mergeSort fun a b => b.lastObserved.rank ≤ a.lastObserved.rank

/-- Adds the events of a list whose uid has not been seen, the first of each uid. -/
def appendUnseen (events : List Event) : List Event → List Event
  | [] => events
  | e :: rest =>
    if events.any (·.uid = e.uid) then appendUnseen events rest
    else appendUnseen (events ++ [e]) rest

/-- Takes up further events; past the cap only the latest observed stay. -/
def merge (events incoming : List Event) : List Event :=
  let all := appendUnseen events incoming
  if all.length ≤ cap then all else (newestFirst all).take cap

end Event

end ResourceTree
