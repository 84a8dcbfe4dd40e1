import ResourceTree.Files
import ResourceTree.Loading

/-!
# Snapshots and events in files

A file with a snapshot holds one of its two forms, which its first character tells apart; a file
with events holds a JSON array.
-/

namespace ResourceTree
set_option autoImplicit false

namespace Snapshot

/-- The tree of a snapshot: a JSON document if it begins with a brace, compressed otherwise. -/
def ofText (path text : String) : Except Failure Tree := do
  let trimmed := Text.trim text
  let tree ←
    if trimmed.toList.head? = some '\x7b' then do
      let w ← (Json.Reader.ofText Wire.Node.read trimmed).mapError fun f =>
        { message := "Failed to parse snapshot: " ++ path, causes := [f.message] }
      pure (decode w)
    else pure (decodeCompressed trimmed)
  tree.mapError fun e => e.failure.within ("Failed to decode snapshot: " ++ path)

/-- The tree of the snapshot at a path. -/
def load (path : String) (place : Place) : Except Failure Tree := do
  let text ← place.text.mapError (·.within ("Failed to read snapshot: " ++ path))
  ofText path text

end Snapshot

/-- The events of the file at a path. -/
def EventLog.loadFile (l : EventLog) (path : String) (place : Place) :
    Except Failure EventLog := do
  let text ← place.text.mapError (·.within ("Failed to read events: " ++ path))
  let ws ← (Json.Reader.ofText (Json.Reader.list Wire.Event.read) text).mapError fun f =>
    { message := "Failed to parse events: " ++ path, causes := [f.message] }
  let events ← (ws.mapM Decode.event).mapError fun e => e.failure.within "Failed to decode events"
  return l.setEvents events

end ResourceTree
