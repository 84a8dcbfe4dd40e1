import ResourceTree.Proofs.Realtime.Frames
import ResourceTree.Proofs.Text.Lines
import ResourceTree.Proofs.Tree.Logs
import ResourceTree.Proofs.Tree.Steps
import ResourceTree.Realtime.Replay

/-!
# Frames do not disturb each other

The outcome of a frame bounds what it changed, and most outcomes mean that it changed nothing at
all. So a recording can lose any lines with such outcomes, and the frames of the other lines come to
the same as before.
-/

namespace ResourceTree
set_option autoImplicit false

/-- The outcomes of frames that leave the router as it was. -/
def Outcome.changesNothing : Outcome → Bool
  | .delta _ result => result ≠ .applied
  | .event added _ => !added
  | .heartbeat | .ignored _ | .dropped _ => true
  | .treeReplaced _ | .logAppended | .connected _ => false

namespace Router

open Text (keepAt keepLines)

/-- What a frame may have changed when it has an outcome. -/
def Effect (r r' : Router) : Outcome → Prop
  | .treeReplaced _ => ∃ tree selected, r' =
    { r with
      store := { r.store with tree, selected, version := r.store.version + 1 }
      needsResync := false }
  | .delta _ .applied => ∃ tree selected, r' =
    { r with store := { r.store with tree, selected, version := r.store.version + 1 } }
  | .logAppended => ∃ tree, tree.eraseLogs = r.store.tree.eraseLogs ∧
    r' = { r with store := { r.store with tree } }
  | .event true _ => ∃ events, r' = { r with events }
  | .connected clientId => r' = { r with clientId }
  | .delta _ _ | .event false _ | .heartbeat | .ignored _ | .dropped _ => r' = r

theorem add_effect (l : EventLog) (e : Event) : (l.add e).2 = false → (l.add e).1 = l := by
  unfold EventLog.add
  split
  · exact fun _ => rfl
  · exact fun added => by cases added

/-- A frame touches no more than its outcome tells. -/
theorem Routed.effect {r r' : Router} {o : Outcome} (h : Routed r r' o) : Effect r r' o := by
  cases h with
  | @treeReplaced _ t _ =>
    obtain ⟨selected, dropped⟩ := Store.dropStaleSelection_eq (r.store.change t)
    rw [Store.replaceTree, dropped]
    exact ⟨t, selected, rfl⟩
  | @delta _ _ d _ =>
    rcases r.store.apply_cases d with ⟨applied, tree, selected, eq⟩ | ⟨refused, same⟩
    · rw [applied, eq]
      exact ⟨tree, selected, rfl⟩
    · rw [same]
      generalize (r.store.apply d).2 = result at refused
      cases result with
      | applied => exact absurd rfl refused
      | missingParent | missingNode | tombstonedParent | duplicateUid => rfl
  | logAppended selected appended =>
    obtain ⟨tree, eq, rfl⟩ := Store.appendLog?_eq_some appended
    exact ⟨tree, eq, rfl⟩
  | @event _ e _ =>
    have same := add_effect r.events e
    cases added : (r.events.add e).2 with
    | true => exact ⟨_, rfl⟩
    | false => rw [same added]; rfl
  | connected clientId => rfl
  | heartbeat | ignored | dropped => rfl

/-- A frame whose outcome tells of no change leaves the router as it was. -/
theorem Effect.eq_of_changesNothing {r r' : Router} {o : Outcome} (h : Effect r r' o)
    (nothing : o.changesNothing = true) : r' = r := by
  cases o with
  | treeReplaced | logAppended | connected => cases nothing
  | delta op result => cases result with
    | applied => simp [Outcome.changesNothing] at nothing
    | missingParent | missingNode | tombstonedParent | duplicateUid => exact h
  | event added notice => cases added with
    | true => cases nothing
    | false => exact h
  | heartbeat | ignored | dropped => exact h

/-- Routes one line of a recording. A blank line has no outcome. -/
def routeLine (r : Router) (line : String) : Router × Option Outcome :=
  if Text.trim line = "" then (r, none)
  else ((r.handleText (Text.trim line)).1, some (r.handleText (Text.trim line)).2)

/-- The router after some lines. -/
def afterLines (r : Router) : List String → Router
  | [] => r
  | line :: rest => (r.routeLine line).1.afterLines rest

/-- What lines come to one after the other, an entry for each. -/
def lineOutcomes (r : Router) : List String → List (Option Outcome)
  | [] => []
  | line :: rest => (r.routeLine line).2 :: (r.routeLine line).1.lineOutcomes rest

/-- A replay goes through the lines of its text, blank ones aside. -/
theorem foldl_replayStep (r : Router) (lines : List String) (earlier : List Outcome) :
    ((lines.map Text.trim).filter (· ≠ "")).foldl replayStep (r, earlier) =
      (r.afterLines lines, ((r.lineOutcomes lines).filterMap id).reverse ++ earlier) := by
  induction lines generalizing r earlier with
  | nil => rfl
  | cons line rest ih =>
    by_cases blank : Text.trim line = ""
    · simpa [blank, afterLines, lineOutcomes, routeLine] using ih r earlier
    · have later := ih (r.handleText (Text.trim line)).1
        ((r.handleText (Text.trim line)).2 :: earlier)
      simpa [blank, afterLines, lineOutcomes, routeLine, replayStep] using later

/-- A replay goes through a recording line by line. -/
theorem runFrames_framesOf (r : Router) (text : String) :
    r.runFrames (framesOf text) =
      (r.afterLines (Text.lines text), (r.lineOutcomes (Text.lines text)).filterMap id) := by
  simp only [runFrames, framesOf, foldl_replayStep, List.append_nil, List.reverse_reverse]

/-- A line that is blank or changes nothing. -/
theorem routeLine_idle {r : Router} {line : String}
    (idle : ∀ o, (r.routeLine line).2 = some o → o.changesNothing = true) :
    (r.routeLine line).1 = r := by
  unfold routeLine at idle ⊢
  split
  · rfl
  · next filled =>
    rw [if_neg filled] at idle
    exact (handleText_routed r (Text.trim line)).effect.eq_of_changesNothing (idle _ rfl)

/-- Lines that are blank or change nothing can be left out. -/
theorem lineOutcomes_keepAt (kept : Nat → Bool) (lines : List String) (r : Router)
    (idle : ∀ i o, (r.lineOutcomes lines)[i]? = some (some o) → kept i = false →
      o.changesNothing = true) :
    r.lineOutcomes (keepAt kept lines) = keepAt kept (r.lineOutcomes lines) ∧
      r.afterLines (keepAt kept lines) = r.afterLines lines := by
  induction lines generalizing kept r with
  | nil => exact ⟨rfl, rfl⟩
  | cons line rest ih =>
    rw [lineOutcomes] at idle
    have inner := ih (fun i => kept (i + 1)) (r.routeLine line).1 fun i o there left =>
      idle (i + 1) o (by rw [List.getElem?_cons_succ]; exact there) left
    cases here : kept 0 with
    | true =>
      simp only [keepAt, here, if_true, lineOutcomes, afterLines, inner.1, inner.2, and_self]
    | false =>
      have same : (r.routeLine line).1 = r := routeLine_idle fun o eq =>
        idle 0 o (by rw [List.getElem?_cons_zero, eq]) here
      rw [same] at inner
      simp only [keepAt, here, Bool.false_eq_true, if_false, lineOutcomes, afterLines, same, inner.1,
        inner.2, and_self]

/-- Every frame changes what its outcome allows, and nothing at all where the outcome says so. And a
recording that loses lines with such outcomes leads to the same router, with the outcomes of the
other lines as they were. -/
theorem frames_isolated (r : Router) :
    (∀ raw, Effect r (r.handleText raw).1 (r.handleText raw).2 ∧
      ((r.handleText raw).2.changesNothing = true → (r.handleText raw).1 = r)) ∧
    ∀ (text : String) (kept : Nat → Bool),
      r.runFrames (framesOf text) =
        (r.afterLines (Text.lines text), (r.lineOutcomes (Text.lines text)).filterMap id) ∧
      ((∀ i o, (r.lineOutcomes (Text.lines text))[i]? = some (some o) → kept i = false →
          o.changesNothing = true) →
        r.lineOutcomes (Text.lines (keepLines kept text)) =
          keepAt kept (r.lineOutcomes (Text.lines text)) ∧
        r.runFrames (framesOf (keepLines kept text)) =
          ((r.runFrames (framesOf text)).1,
            (keepAt kept (r.lineOutcomes (Text.lines text))).filterMap id)) := by
  refine ⟨fun raw => ?_, fun text kept => ⟨runFrames_framesOf r text, fun idle => ?_⟩⟩
  · have effect := (handleText_routed r raw).effect
    exact ⟨effect, effect.eq_of_changesNothing⟩
  · obtain ⟨outcomes, state⟩ := lineOutcomes_keepAt kept (Text.lines text) r idle
    rw [← Text.lines_keepLines] at outcomes state
    refine ⟨outcomes, ?_⟩
    rw [runFrames_framesOf, runFrames_framesOf, outcomes, state]

/-- A router that has seen nothing. -/
def fresh : Router := .start (.empty "flux-system" 10) (.empty 10)

/-- A heartbeat, a line that is no frame, and the greeting of the server. -/
def recording : String :=
  "\x7b\"type\": \"ping\"\x7d\nnonsense\n\x7b\"type\": \"connected\", \"clientId\": \"c\"\x7d\n"

theorem recording_outcomes : fresh.lineOutcomes (Text.lines recording) =
    [some .heartbeat, some (.dropped "expected ident"), some (.connected (some "c"))] := by
  decide +kernel

/-- A recording of which only the last line counts. -/
theorem frames_isolated_recording :
    (∀ i o, (fresh.lineOutcomes (Text.lines recording))[i]? = some (some o) →
      (i == 2) = false → o.changesNothing = true) ∧
    fresh.runFrames (framesOf (keepLines (· == 2) recording)) =
      ((fresh.runFrames (framesOf recording)).1, [.connected (some "c")]) := by
  have idle : ∀ i o, (fresh.lineOutcomes (Text.lines recording))[i]? = some (some o) →
      (i == 2) = false → o.changesNothing = true := by
    intro i o there left
    rw [recording_outcomes] at there
    match i with
    | 0 => cases there; rfl
    | 1 => cases there; rfl
    | 2 => cases left
    | i + 3 => cases there
  refine ⟨idle, ?_⟩
  have whole := (((frames_isolated fresh).2 recording (· == 2)).2 idle).2
  rw [recording_outcomes] at whole
  exact whole

end Router

end ResourceTree
