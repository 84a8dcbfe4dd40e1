import ResourceTree.Graph.Layout
import ResourceTree.Number.FloatText
import ResourceTree.Realtime.Router

/-!
# Plain texts for the terminal

The tree with its listings and counters, a layout line by line, and one line for what each frame
of a replay did.
-/

namespace ResourceTree.Summary
set_option autoImplicit false

/-- A text filled up with spaces on the right. -/
def padRight (width : Nat) (s : String) : String :=
  s ++ String.ofList (List.replicate (width - s.length) ' ')

/-- A text filled up with spaces on the left. -/
def padLeft (width : Nat) (s : String) : String :=
  String.ofList (List.replicate (width - s.length) ' ') ++ s

/-- Lines, each with its line break. -/
def unlines (lines : List String) : String := String.join (lines.map (· ++ "\n"))

def yesNo (b : Bool) : String := if b then "yes" else "no"

/-- Status, kind, name and flags of a row. -/
def row (r : Row) : String :=
  "  " ++ padRight 8 r.status.name ++ " " ++ padRight 15 r.kind ++ " "
    ++ (match r.ns with | some ns => ns ++ "/" ++ r.name | none => r.name)
    ++ (if r.isSuspended then " [suspended]" else "")
    ++ (if r.isReconciling then " [reconciling]" else "")

/-- A listing under its title. -/
def listing (title : String) (rows : List Row) : List String :=
  (title ++ " (" ++ toString rows.length ++ "):") :: rows.map row

/-- The root, the listings, and the counters of events. -/
def ofViews (s : Store) (v : Views) (events : EventLog) : String :=
  unlines <|
    ["Tree: " ++ s.tree.resource.kind ++ " " ++ s.tree.resource.displayName ++ " ("
      ++ toString s.tree.size ++ " nodes)"]
    ++ listing "Applications" v.applications
    ++ listing "Repositories" v.repositories
    ++ listing "Controllers" v.controllers
    ++ ["Events: " ++ toString events.events.length ++ " (new: " ++ yesNo events.hasNew
      ++ ", warnings: " ++ yesNo events.hasNewWarnings ++ ")"]

/-- The summary of a store; its listings are computed unless they have been. -/
def ofStore (s : Store) (events : EventLog) : Store × String :=
  let (s, v) := s.derivedViews
  (s, ofViews s v events)

/-- The text of a coordinate. -/
def coordinate (x : Float) : String := Number.FloatStyle.plain.text x

/-- Placed nodes, then edges. -/
def ofLayout (l : Layout Float) : String :=
  unlines <|
    (l.nodes.map fun n =>
      n.node.id ++ " (" ++ n.node.type.name ++ ") at " ++ coordinate n.x ++ "," ++ coordinate n.y)
    ++ l.edges.map fun e => e.source ++ " -> " ++ e.target

/-- A notice without line breaks. -/
def notice (n : Notice) : String :=
  " (" ++ n.level.name ++ ": " ++ String.ofList (n.text.toList.filter (· ≠ '\n')) ++ ")"

/-- One line for what a frame did. -/
def ofOutcome : Outcome → String
  | .treeReplaced nodes => "tree replaced (" ++ toString nodes ++ " nodes)"
  | .delta op result => op.name ++ " -> " ++ result.name
  | .logAppended => "log appended"
  | .event added n =>
    (if added then "event added" else "event duplicate") ++ (n.map notice).getD ""
  | .connected clientId => "connected (" ++ clientId.getD "-" ++ ")"
  | .heartbeat => "heartbeat"
  | .ignored kind => "ignored " ++ kind
  | .dropped reason => "dropped: " ++ reason

end ResourceTree.Summary
