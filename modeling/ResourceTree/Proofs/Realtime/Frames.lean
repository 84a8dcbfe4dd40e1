import ResourceTree.Proofs.Result
import ResourceTree.Realtime.Router
import ResourceTree.Tree.Run

/-!
# What a frame can do to a router

`Routed` lists all that routing one frame can come to: the new router and the outcome, by what was
decoded from the payload. Whatever holds of every frame is proved by going through its cases, and
the reading of envelopes and payloads is not opened again.
-/

namespace ResourceTree
set_option autoImplicit false

namespace Delta

/-- A delta as the payload of a frame with an operation is decoded. -/
inductive Decoded (message : Json.Value) : DeltaOp → Delta → Prop where
  | add {t : Tree} (decoded : Router.deltaTree message = .ok t) : Decoded message .add (.add t)
  | update {t : Tree} (decoded : Router.deltaTree message = .ok t) :
    Decoded message .update (.update t)
  | remove {w : Wire.NodeRef} (read : Snapshot.readValue Wire.NodeRef.read message = .ok w) :
    Decoded message .remove (.remove w.uid w.parent)

end Delta

namespace Router

/-- The results of routing one frame. -/
inductive Routed (r : Router) : Router → Outcome → Prop where
  | treeReplaced {message : Json.Value} {t : Tree} (decoded : snapshotOf message = .ok t) :
    Routed r { r with store := r.store.replaceTree t, needsResync := false } (.treeReplaced t.size)
  | delta {message : Json.Value} {op : DeltaOp} {d : Delta} (decoded : d.Decoded message op) :
    Routed r { r with store := (r.store.apply d).1 } (.delta op (r.store.apply d).2)
  | logAppended {uid : String} {line : LogLine} {store : Store}
    (selected : r.store.selected = some uid) (appended : r.store.appendLog? uid line = some store) :
    Routed r { r with store } .logAppended
  | event {w : Wire.Event} {e : Event} (decoded : Decode.event w = .ok e) :
    Routed r { r with events := (r.events.add e).1 } (.event (r.events.add e).2 (noticeOf w))
  | connected (clientId : Option String) : Routed r { r with clientId } (.connected clientId)
  | heartbeat : Routed r r .heartbeat
  | ignored (kind : String) : Routed r r (.ignored kind)
  | dropped (reason : String) : Routed r r (.dropped reason)

variable {r r' : Router} {o : Outcome} {message : Json.Value}

/-- A snapshot that is taken replaces the tree. -/
theorem handleTree_routed (h : r.handleTree message = .ok (r', o)) : Routed r r' o := by
  obtain ⟨t, decoded, h⟩ := bind_eq_ok.1 h
  cases pure_eq_ok.1 h
  exact .treeReplaced decoded

/-- A delta that is decoded is applied, whatever comes of it. -/
theorem handleDelta_routed {op : DeltaOp} (h : r.handleDelta op message = .ok (r', o)) :
    Routed r r' o := by
  unfold handleDelta at h
  cases op with
  | add =>
    obtain ⟨⟨store, result⟩, applied, h⟩ := bind_eq_ok.1 h
    obtain ⟨t, decoded, eq⟩ := map_eq_ok.1 applied
    cases pure_eq_ok.1 h
    have routed : Routed r { r with store := (r.store.add t).1 } (.delta .add (r.store.add t).2) :=
      .delta (.add decoded)
    rwa [eq] at routed
  | update =>
    obtain ⟨⟨store, result⟩, applied, h⟩ := bind_eq_ok.1 h
    obtain ⟨t, decoded, eq⟩ := map_eq_ok.1 applied
    cases pure_eq_ok.1 h
    have routed : Routed r { r with store := (r.store.update t).1 } (.delta .update (r.store.update t).2) :=
      .delta (.update decoded)
    rwa [eq] at routed
  | remove =>
    obtain ⟨w, read, h⟩ := bind_eq_ok.1 h
    cases pure_eq_ok.1 h
    exact .delta (.remove read)

/-- An event is recorded as a notification. -/
theorem handleEvent_routed (h : r.handleEvent message = .ok (r', o)) : Routed r r' o := by
  obtain ⟨w, read, h⟩ := bind_eq_ok.1 h
  obtain ⟨e, decoded, h⟩ := bind_eq_ok.1 h
  cases pure_eq_ok.1 h
  exact .event (mapError_eq_ok.1 decoded)

/-- A log line goes to the node that is selected, if there is one. -/
theorem handleLog_routed (h : r.handleLog message = .ok (r', o)) : Routed r r' o := by
  obtain ⟨w, read, h⟩ := bind_eq_ok.1 h
  obtain ⟨⟨uid, line⟩, decoded, h⟩ := bind_eq_ok.1 h
  simp only at h
  split at h
  · next selected =>
    split at h
    · next store appended =>
      cases pure_eq_ok.1 h
      exact .logAppended selected appended
    · cases pure_eq_ok.1 h
      exact .ignored _
  · cases pure_eq_ok.1 h
    exact .ignored _

/-- A frame of each kind does one of the things that frames do. -/
theorem dispatch_routed {kind : MessageKind} {e : Envelope}
    (h : r.dispatch kind e = .ok (r', o)) : Routed r r' o := by
  cases kind with
  | tree => exact handleTree_routed h
  | resourceAdd | resourceUpdate | resourceRemove | resource =>
    simp only [dispatch] at h
    split at h
    · exact handleDelta_routed h
    · cases h
      exact .ignored _
  | event => exact handleEvent_routed h
  | log => exact handleLog_routed h
  | connected =>
    cases h
    exact .connected _
  | ping | pong =>
    cases h
    exact .heartbeat
  | startWatchLogs =>
    cases h
    exact .ignored _

/-- So does every frame, also one that is dropped. -/
theorem handle_routed (r : Router) (e : Envelope) : Routed r (r.handle e).1 (r.handle e).2 := by
  unfold handle
  cases e.kind? with
  | none => exact .ignored _
  | some kind =>
    cases dispatched : r.dispatch kind e with
    | ok result => simpa only [dispatched] using dispatch_routed dispatched
    | error err => simpa only [dispatched] using .dropped _

/-- So does every text, also one that is no frame. -/
theorem handleText_routed (r : Router) (raw : String) :
    Routed r (r.handleText raw).1 (r.handleText raw).2 := by
  unfold handleText
  cases Envelope.ofText raw with
  | ok e => exact handle_routed r e
  | error f => exact .dropped _

/-- A change of the connection leaves the store alone. -/
theorem onConnection_store (r : Router) (state : ConnectionState) :
    (r.onConnection state).store = r.store := by
  unfold onConnection
  split <;> rfl

end Router

end ResourceTree
