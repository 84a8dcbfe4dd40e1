import ResourceTree.Proofs.Realtime.Everywhere
import ResourceTree.Proofs.Realtime.Resync
import ResourceTree.Proofs.Tree.LogPlaces

/-!
# Log lines along a run of a router

A router takes in log lines in two ways, in frames for the selected node and from the user, and both
times they go to one node. Records come without log lines, so all else that a router takes in can only
leave nodes the lines that they have, or take nodes away. `logsKept_run` puts this together with the
bound on the lines of a node, which every line that is taken keeps and nothing else touches.
-/

namespace ResourceTree
set_option autoImplicit false

/-- Records come without log lines. -/
theorem Decode.yields_no_logs : Decode.Yields (·.logs = []) := fun _ _ _ _ _ _ => rfl

/-- No operation lets a node have more lines than the buffer holds. -/
theorem Resource.stable_logs_length (buffer : Nat) : Stable buffer (·.logs.length ≤ buffer) where
  merge bounded _ := bounded
  named _ bounded := bounded
  unparented bounded := bounded
  withFlux _ bounded := bounded
  prependLog _ _ := List.length_take_le buffer _

namespace Router

/-- The payload of a frame; a text that is no frame has none. -/
def messageOf (raw : String) : Json.Value :=
  match Envelope.ofText raw with
  | .ok e => e.message
  | .error _ => .null

/-- The log line of a payload, with the uid of its node. -/
def logOf (message : Json.Value) : Except PayloadError (String × LogLine) := do
  let w ← Snapshot.readValue Wire.Log.read message
  (Decode.log w).mapError .record

/-- What a frame with a payload does to the log lines in the store of a router, by the outcome. -/
def LogEffect (r r' : Router) (message : Json.Value) : Outcome → Prop
  | .treeReplaced _ => r'.store.tree.Everywhere (·.logs = [])
  | .delta op _ => ∃ d, deltaOf op message = .ok d ∧ d.Brings (·.logs = []) ∧
      d.LogEffect r.store.tree r'.store.tree
  | .logAppended => ∃ uid line, logOf message = .ok (uid, line) ∧ r.store.selected = some uid ∧
      r' = { r with store := { r.store with tree := r'.store.tree } } ∧
      Tree.Logged r.store.logBuffer uid line r.store.tree r'.store.tree
  | .event .. | .connected _ | .heartbeat | .ignored _ | .dropped _ => r'.store = r.store

end Router

/-- What a signal does to the log lines in the store of the router that takes it in. -/
def Signal.LogEffect (r : Router) : Signal → Prop
  | .frame raw => r.LogEffect (r.handleText raw).1 (Router.messageOf raw) (r.handleText raw).2
  | .connection state => (r.onConnection state).store = r.store
  | .operation o _ => o.LogEffect r.store.logBuffer r.store.tree (r.store.perform o).tree

namespace Router

variable {r r' : Router} {o : Outcome} {message : Json.Value}

/-- A delta that was made of a message was decoded from it. -/
theorem decoded_of_deltaOf {op : DeltaOp} {d : Delta} (h : deltaOf op message = .ok d) :
    d.Decoded message op := by
  cases op with
  | add =>
    obtain ⟨t, decoded, rfl⟩ := map_eq_ok.1 h
    exact .add decoded
  | update =>
    obtain ⟨t, decoded, rfl⟩ := map_eq_ok.1 h
    exact .update decoded
  | remove =>
    obtain ⟨w, read, rfl⟩ := map_eq_ok.1 h
    exact .remove read

/-- A snapshot brings in no log line. -/
theorem handleTree_logs (h : r.handleTree message = .ok (r', o)) : r.LogEffect r' message o := by
  obtain ⟨t, decoded, h⟩ := bind_eq_ok.1 h
  cases pure_eq_ok.1 h
  obtain ⟨w, read⟩ := exists_node_of_snapshotOf decoded
  show (r.store.replaceTree t).tree.Everywhere (·.logs = [])
  rw [Store.replaceTree, Store.dropStaleSelection_tree]
  exact Decode.node_everywhere Decode.yields_no_logs read

/-- A delta does to the log lines what its operation does. -/
theorem handleDelta_logs {op : DeltaOp} (h : r.handleDelta op message = .ok (r', o)) :
    r.LogEffect r' message o := by
  rw [handleDelta_eq] at h
  obtain ⟨d, read, routed⟩ := map_eq_ok.1 h
  cases routed
  exact ⟨d, read, brings_of_decoded Decode.yields_no_logs (decoded_of_deltaOf read),
    r.store.apply_logs d⟩

/-- An event leaves the tree. -/
theorem handleEvent_logs (h : r.handleEvent message = .ok (r', o)) : r.LogEffect r' message o := by
  obtain ⟨w, read, h⟩ := bind_eq_ok.1 h
  obtain ⟨e, decoded, h⟩ := bind_eq_ok.1 h
  cases pure_eq_ok.1 h
  rfl

/-- A log frame puts its line in front of those of the selected node. -/
theorem handleLog_logs (h : r.handleLog message = .ok (r', o)) : r.LogEffect r' message o := by
  obtain ⟨w, read, h⟩ := bind_eq_ok.1 h
  obtain ⟨⟨uid, line⟩, decoded, h⟩ := bind_eq_ok.1 h
  simp only at h
  split at h
  · next selected =>
    split at h
    · next store appended =>
      cases pure_eq_ok.1 h
      obtain ⟨elsewhere, logged⟩ := Store.appendLog?_logs appended
      exact ⟨uid, line, bind_eq_ok.2 ⟨w, read, decoded⟩, selected, by rw [← elsewhere], logged⟩
    · cases pure_eq_ok.1 h
      rfl
  · cases pure_eq_ok.1 h
    rfl

/-- A frame of each kind has the effect of its outcome. -/
theorem dispatch_logs {kind : MessageKind} {e : Envelope} (h : r.dispatch kind e = .ok (r', o)) :
    r.LogEffect r' e.message o := by
  cases kind with
  | tree => exact handleTree_logs h
  | resourceAdd | resourceUpdate | resourceRemove | resource =>
    simp only [dispatch] at h
    split at h
    · exact handleDelta_logs h
    · cases h
      rfl
  | event => exact handleEvent_logs h
  | log => exact handleLog_logs h
  | connected | ping | pong | startWatchLogs =>
    cases h
    rfl

/-- So has every frame, also one that is dropped. -/
theorem handle_logs (r : Router) (e : Envelope) :
    r.LogEffect (r.handle e).1 e.message (r.handle e).2 := by
  unfold handle
  cases e.kind? with
  | none => rfl
  | some kind =>
    cases dispatched : r.dispatch kind e with
    | ok result => simpa only [dispatched] using dispatch_logs dispatched
    | error err => simp only [dispatched, LogEffect]

/-- So has every text, also one that is no frame. -/
theorem handleText_logs (r : Router) (raw : String) :
    r.LogEffect (r.handleText raw).1 (messageOf raw) (r.handleText raw).2 := by
  unfold handleText messageOf
  cases Envelope.ofText raw with
  | ok e => exact handle_logs r e
  | error f => rfl

/-- So has every signal. -/
theorem receive_logs (r : Router) (x : Signal) : x.LogEffect r := by
  cases x with
  | frame raw => exact handleText_logs r raw
  | connection state => exact onConnection_store r state
  | operation o here => exact r.store.perform_logs o

/-- The log lines in the store of a router are within a bound, and stay where they belong whatever the
router takes in next. -/
structure LogsKept (buffer : Nat) (r : Router) : Prop where
  configured : r.store.logBuffer = buffer
  bounded : ∀ n ∈ r.store.tree.resources, n.logs.length ≤ buffer
  next : ∀ x : Signal, x.LogEffect r

/-- At every stage of a run no node has more log lines than the buffer holds. A frame with a log line
that is taken changes the lines of one node, the first one with the selected uid, and nothing else; all
other signals but snapshots leave every node that stays its lines. -/
theorem logsKept_run (ns : String) (buffer : Nat) (events : EventLog) (signals : List Signal) :
    LogsKept buffer ((start (.empty ns buffer) events).run signals) := by
  have holds := run_empty_holds (Resource.stable_logs_length buffer)
    (fun _ _ _ _ _ _ => Nat.zero_le buffer) (Nat.zero_le buffer) ns events signals
  exact ⟨holds.buffer, holds.everywhere, receive_logs _⟩

/-- The text of a frame with a log line. -/
def lineText (uid text : String) : String :=
  frameText "log" ("\x7b\"uid\":\"" ++ uid ++ "\",\"log\":\"" ++ text ++
    "\",\"timestamp\":\"2025-01-01T00:00:00Z\",\"container\":\"web\"\x7d")

/-- A selected pod that logs two lines, another one that logs one, and an update of the first. -/
def logging : List Signal :=
  [.frame (frameText "tree" (recordText "r"
      (",\"children\":[" ++ recordText "p" "" ++ "," ++ recordText "q" "" ++ "]"))),
    .operation (.select "p") rfl, .frame (lineText "p" "a"), .frame (lineText "p" "b"),
    .frame (lineText "q" "c"), .frame (frameText "resource_update" (recordText "p"
      ",\"name\":\"pod\",\"parentIDs\":[\"r\"]"))]

example :
    ((start (.empty "flux-system" 1) (.empty 10)).run logging).store.tree.resources.map
        (fun n => (n.uid, n.name, n.logs.map (·.text))) =
      [("r", "", []), ("p", "pod", ["b"]), ("q", "", [])] := by
  decide +kernel

end Router

end ResourceTree
