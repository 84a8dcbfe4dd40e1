import ResourceTree.Resource.Event

/-!
# The list of cluster events

Events in the order of their arrival, each uid once and only the latest up to a limit. An arrival is
known by its uid, which is remembered for as long as the event is kept. While the panel that shows
them is closed, an arrival raises a hint, and a warning raises a second one. What can be done to the
list stands here as data, so that its history is a list.
-/

namespace ResourceTree
set_option autoImplicit false

structure EventLog where
  events : List Event
  /-- The uids that are known, in no order that matters. -/
  seen : List String
  limit : Nat
  panelOpen : Bool
  hasNew : Bool
  hasNewWarnings : Bool
  deriving DecidableEq, Repr

namespace EventLog

/-- No events yet; at least one can be kept. -/
def empty (limit : Nat) : EventLog :=
  { events := [], seen := [], limit := max limit 1, panelOpen := false, hasNew := false
    hasNewWarnings := false }

/-- Whether an event of a uid is known. -/
def contains (uid : String) (l : EventLog) : Bool := l.seen.contains uid

/-- Takes events off the front until at most `limit` are left, and forgets their uids. -/
def evict (limit : Nat) (seen : List String) : List Event → List Event × List String
  | [] => ([], seen)
  | e :: rest =>
    if limit < (e :: rest).length then evict limit (seen.filter (· ≠ e.uid)) rest
    else (e :: rest, seen)

/-- Appends an event of a new uid; the oldest events give way. -/
def push (l : EventLog) (e : Event) : EventLog :=
  if l.contains e.uid then l
  else
    let (events, seen) := evict l.limit (e.uid :: l.seen) (l.events ++ [e])
    { l with events, seen }

/-- Replaces all events, without hints. -/
def setEvents (l : EventLog) (events : List Event) : EventLog :=
  events.foldl push { l with events := [], seen := [] }

/-- Adds an event; one whose uid is there already changes nothing. -/
def add (l : EventLog) (e : Event) : EventLog × Bool :=
  if l.contains e.uid then (l, false)
  else
    let hinted :=
      if l.panelOpen then l
      else { l with hasNew := true, hasNewWarnings := l.hasNewWarnings || e.isWarning }
    (hinted.push e, true)

def clearHints (l : EventLog) : EventLog := { l with hasNew := false, hasNewWarnings := false }

/-- Opens or closes the panel; opening clears the hints. -/
def togglePanel (l : EventLog) : EventLog :=
  if l.panelOpen then { l with panelOpen := false } else { l with panelOpen := true }.clearHints

/-- The events about a resource, the latest observed first. -/
def eventsFor (uid : String) (l : EventLog) : List Event :=
  Event.newestFirst (l.events.filter (·.resourceUid = uid))

/-- Anything that can be done to a list of events. -/
inductive Operation where
  | add (e : Event)
  | setEvents (events : List Event)
  | togglePanel
  | clearHints

def perform (l : EventLog) : Operation → EventLog
  | .add e => (l.add e).1
  | .setEvents events => l.setEvents events
  | .togglePanel => l.togglePanel
  | .clearHints => l.clearHints

/-- The list after a history. -/
def run (l : EventLog) (history : List Operation) : EventLog := history.foldl perform l

end EventLog

end ResourceTree
