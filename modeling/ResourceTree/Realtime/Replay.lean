import ResourceTree.Realtime.Router
import ResourceTree.Summary
import ResourceTree.Text.Blank

/-!
# Replaying recorded frames

A recording holds one frame a line; blank lines are passed over. The frames are routed one after
the other, and each gives one line of the report.
-/

namespace ResourceTree.Router
set_option autoImplicit false

/-- The frames of a recording. -/
def framesOf (text : String) : List String :=
  ((Text.lines text).map Text.trim).filter (· ≠ "")

/-- Routes one frame after the others; `done` are the outcomes so far, the latest first. -/
def replayStep (acc : Router × List Outcome) (frame : String) : Router × List Outcome :=
  let (r, outcome) := acc.1.handleText frame
  (r, outcome :: acc.2)

/-- Routes frames in order. -/
def runFrames (r : Router) (frames : List String) : Router × List Outcome :=
  let (r, outcomes) := frames.foldl replayStep (r, [])
  (r, outcomes.reverse)

/-- Routes the frames of a recording. -/
def replay (r : Router) (text : String) : Router × List String :=
  let (r, outcomes) := r.runFrames (framesOf text)
  (r, outcomes.map Summary.ofOutcome)

end ResourceTree.Router
