import ResourceTree.Proofs.Realtime.Linkage
import ResourceTree.Proofs.Tree.LogBlind
import ResourceTree.Realtime.Replay

/-!
# A snapshot makes up for everything before it

Two routers that agree in the namespace of the root agree in the tree from the first snapshot that
both take, whatever they held before it. What the frames behind the snapshot come to is the same, but
for events, which are compared with a list that no snapshot replaces, and for log lines, which are
kept for the selected node only and are no part of the structure.
-/

namespace ResourceTree.Router
set_option autoImplicit false

/-- The kind of a frame, as far as it is one. -/
def kindOf? (raw : String) : Option MessageKind :=
  match Envelope.ofText raw with
  | .ok e => e.kind?
  | .error _ => none

/-- The tree that a frame brings, if it is a snapshot that can be decoded. -/
def broughtTree? (raw : String) : Option Tree :=
  match Envelope.ofText raw with
  | .ok e => if e.kind? = some .tree then (snapshotOf e.message).toOption else none
  | .error _ => none

/-- A frame that goes by more than the tree: by the events or by the selection. -/
def GoesByMore (raw : String) : Prop := kindOf? raw = some .event ∨ kindOf? raw = some .log

instance (raw : String) : Decidable (GoesByMore raw) := inferInstanceAs (Decidable (_ ∨ _))

/-- Two routers that no delta can tell apart, and that are up to date. -/
structure InSync (r r' : Router) : Prop where
  bare : r.store.bare = r'.store.bare
  current : r.needsResync = false
  current' : r'.needsResync = false

theorem InSync.trees {r r' : Router} (sync : InSync r r') :
    r.store.tree.eraseLogs = r'.store.tree.eraseLogs := (Store.bare_eq_iff.1 sync.bare).2

/-! ## One frame -/

theorem handleText_of_envelope {raw : String} {e : Envelope} (read : Envelope.ofText raw = .ok e)
    (r : Router) : r.handleText raw = r.handle e := by
  rw [handleText, read]

theorem handle_of_kind {e : Envelope} {kind : MessageKind} (known : e.kind? = some kind) (r : Router) :
    r.handle e = match r.dispatch kind e with
      | .ok result => result
      | .error err => (r, .dropped err.message) := by
  cases dispatched : r.dispatch kind e with
  | ok result => simp only [handle, known, dispatched]
  | error err => simp only [handle, known, dispatched]

/-- A snapshot that can be decoded is taken whatever the router holds. -/
theorem handleText_of_broughtTree {raw : String} {t : Tree} (brought : broughtTree? raw = some t)
    (r : Router) : r.handleText raw =
      ({ r with store := r.store.replaceTree t, needsResync := false }, .treeReplaced t.size) := by
  unfold broughtTree? at brought
  cases read : Envelope.ofText raw with
  | error f => simp only [read, reduceCtorEq] at brought
  | ok e =>
    simp only [read] at brought
    split at brought
    · next kind =>
      cases decoded : snapshotOf e.message with
      | error err => simp only [decoded, Except.toOption, reduceCtorEq] at brought
      | ok tree =>
        simp only [decoded, Except.toOption, Option.some.injEq] at brought
        rw [handleText_of_envelope read, handle_of_kind kind, dispatch, handleTree, decoded, brought]
        rfl
    · cases brought

/-- The delta of a payload with an operation. -/
def deltaOf (op : DeltaOp) (message : Json.Value) : Except PayloadError Delta :=
  match op with
  | .add => .add <$> deltaTree message
  | .update => .update <$> deltaTree message
  | .remove => (fun w => .remove w.uid w.parent) <$> Snapshot.readValue Wire.NodeRef.read message

theorem handleDelta_eq (r : Router) (op : DeltaOp) (message : Json.Value) :
    r.handleDelta op message = (fun d =>
      ({ r with store := (r.store.apply d).1 }, .delta op (r.store.apply d).2)) <$>
        deltaOf op message := by
  unfold handleDelta deltaOf
  cases op with
  | add | update =>
    cases deltaTree message with
    | error err => rfl
    | ok t => rfl
  | remove =>
    cases Snapshot.readValue Wire.NodeRef.read message with
    | error err => rfl
    | ok w => rfl

/-- What a frame comes to in two routers: routers in step again, and the same outcome. -/
def Together (x x' : Router × Outcome) : Prop := InSync x.1 x'.1 ∧ x.2 = x'.2

variable {r r' : Router}

theorem handleDelta_inSync (sync : InSync r r') (op : DeltaOp) (message : Json.Value) :
    (∃ err, r.handleDelta op message = .error err ∧ r'.handleDelta op message = .error err) ∨
      ∃ x x', r.handleDelta op message = .ok x ∧ r'.handleDelta op message = .ok x' ∧
        Together x x' := by
  rw [handleDelta_eq, handleDelta_eq]
  cases deltaOf op message with
  | error err => exact .inl ⟨err, rfl, rfl⟩
  | ok d =>
    obtain ⟨result, after⟩ := Store.apply_congr sync.bare d
    exact .inr ⟨_, _, rfl, rfl, ⟨after, sync.current, sync.current'⟩, congrArg (Outcome.delta op) result⟩

/-- Every frame but an event or a log line leaves routers in step and comes to the same in both. -/
theorem dispatch_together (sync : InSync r r') {kind : MessageKind} (notEvent : kind ≠ .event)
    (notLog : kind ≠ .log) (e : Envelope) :
    (∃ err, r.dispatch kind e = .error err ∧ r'.dispatch kind e = .error err) ∨
      ∃ x x', r.dispatch kind e = .ok x ∧ r'.dispatch kind e = .ok x' ∧ Together x x' := by
  cases kind with
  | event => exact absurd rfl notEvent
  | log => exact absurd rfl notLog
  | tree =>
    rw [dispatch, dispatch, handleTree, handleTree]
    cases snapshotOf e.message with
    | error err => exact .inl ⟨err, rfl, rfl⟩
    | ok t =>
      refine .inr ⟨_, _, rfl, rfl, ⟨?_, rfl, rfl⟩, rfl⟩
      show (r.store.replaceTree t).bare = (r'.store.replaceTree t).bare
      rw [Store.bare_replaceTree, Store.bare_replaceTree, (Store.bare_eq_iff.1 sync.bare).1]
  | resourceAdd | resourceUpdate | resourceRemove | resource =>
    simp only [dispatch]
    cases e.deltaOp? with
    | none => exact .inr ⟨_, _, rfl, rfl, sync, rfl⟩
    | some op => exact handleDelta_inSync sync op e.message
  | connected =>
    exact .inr ⟨_, _, rfl, rfl, ⟨sync.bare, sync.current, sync.current'⟩, rfl⟩
  | ping | pong | startWatchLogs => exact .inr ⟨_, _, rfl, rfl, sync, rfl⟩

/-- Events and log lines leave what deltas go by as it is. -/
theorem dispatch_aside {kind : MessageKind} (aside : kind = .event ∨ kind = .log) {e : Envelope}
    {x : Router × Outcome} (routed : r.dispatch kind e = .ok x) :
    x.1.store.bare = r.store.bare ∧ x.1.needsResync = r.needsResync := by
  rcases aside with rfl | rfl
  · obtain ⟨w, -, h⟩ := bind_eq_ok.1 routed
    obtain ⟨event, -, h⟩ := bind_eq_ok.1 h
    cases pure_eq_ok.1 h
    exact ⟨rfl, rfl⟩
  · obtain ⟨w, -, h⟩ := bind_eq_ok.1 routed
    obtain ⟨⟨uid, line⟩, -, h⟩ := bind_eq_ok.1 h
    simp only at h
    split at h
    · split at h
      · next appended =>
        cases pure_eq_ok.1 h
        exact ⟨Store.bare_appendLog? appended, rfl⟩
      · cases pure_eq_ok.1 h
        exact ⟨rfl, rfl⟩
    · cases pure_eq_ok.1 h
      exact ⟨rfl, rfl⟩

theorem handle_aside {e : Envelope} (aside : e.kind? = some .event ∨ e.kind? = some .log)
    (r : Router) : (r.handle e).1.store.bare = r.store.bare ∧
      (r.handle e).1.needsResync = r.needsResync := by
  obtain ⟨kind, known, which⟩ : ∃ kind, e.kind? = some kind ∧ (kind = .event ∨ kind = .log) := by
    rcases aside with known | known
    · exact ⟨_, known, .inl rfl⟩
    · exact ⟨_, known, .inr rfl⟩
  rw [handle_of_kind known]
  cases routed : r.dispatch kind e with
  | error err => exact ⟨rfl, rfl⟩
  | ok x => exact dispatch_aside which routed

/-- A frame leaves routers in step, and what it comes to is the same in both unless it goes by more
than the tree. -/
theorem handleText_inSync (sync : InSync r r') (raw : String) :
    InSync (r.handleText raw).1 (r'.handleText raw).1 ∧
      (¬ GoesByMore raw → (r.handleText raw).2 = (r'.handleText raw).2) := by
  cases read : Envelope.ofText raw with
  | error f =>
    rw [handleText, handleText, read]
    exact ⟨sync, fun _ => rfl⟩
  | ok e =>
    have kind : kindOf? raw = e.kind? := by rw [kindOf?, read]
    rw [handleText_of_envelope read, handleText_of_envelope read]
    by_cases more : GoesByMore raw
    · unfold GoesByMore at more
      rw [kind] at more
      obtain ⟨bare, current⟩ := handle_aside more r
      obtain ⟨bare', current'⟩ := handle_aside more r'
      refine ⟨⟨?_, current.trans sync.current, current'.trans sync.current'⟩, fun less => ?_⟩
      · exact bare.trans (sync.bare.trans bare'.symm)
      · exact absurd (by unfold GoesByMore; rwa [kind]) less
    · unfold GoesByMore at more
      rw [kind, not_or] at more
      cases known : e.kind? with
      | none =>
        rw [handle, handle, known]
        exact ⟨sync, fun _ => rfl⟩
      | some k =>
        rw [known] at more
        rw [handle_of_kind known, handle_of_kind known]
        rcases dispatch_together sync (fun eq => more.1 (congrArg some eq))
          (fun eq => more.2 (congrArg some eq)) e with ⟨err, here, there⟩ | ⟨x, x', here, there, both⟩
        · rw [here, there]
          exact ⟨sync, fun _ => rfl⟩
        · rw [here, there]
          exact ⟨both.1, fun _ => both.2⟩

/-! ## A run -/

theorem foldl_replayStep_outcomes (frames : List String) (r : Router) (earlier : List Outcome) :
    frames.foldl replayStep (r, earlier) =
      ((frames.foldl replayStep (r, [])).1, (frames.foldl replayStep (r, [])).2 ++ earlier) := by
  induction frames generalizing r earlier with
  | nil => rfl
  | cons raw rest ih =>
    have first : ∀ done, (raw :: rest).foldl replayStep (r, done) =
        rest.foldl replayStep ((r.handleText raw).1, (r.handleText raw).2 :: done) := fun _ => rfl
    rw [first, first, ih _ (_ :: earlier), ih _ [_], List.append_assoc, List.singleton_append]

/-- A run takes the first frame and goes on with the others. -/
theorem runFrames_cons (r : Router) (raw : String) (rest : List String) :
    r.runFrames (raw :: rest) = (((r.handleText raw).1.runFrames rest).1,
      (r.handleText raw).2 :: ((r.handleText raw).1.runFrames rest).2) := by
  have first : (raw :: rest).foldl replayStep (r, []) =
      rest.foldl replayStep ((r.handleText raw).1, [(r.handleText raw).2]) := rfl
  simp only [runFrames, first, foldl_replayStep_outcomes rest _ [_], List.reverse_append,
    List.reverse_singleton, List.singleton_append]

/-- Routers in step stay so along frames, with the same outcomes. -/
theorem runFrames_inSync (sync : InSync r r') (frames : List String) :
    InSync (r.runFrames frames).1 (r'.runFrames frames).1 ∧
      ∀ (i : Nat) (raw : String), frames[i]? = some raw → ¬ GoesByMore raw →
        ∃ o, (r.runFrames frames).2[i]? = some o ∧ (r'.runFrames frames).2[i]? = some o := by
  induction frames generalizing r r' with
  | nil => exact ⟨sync, fun i raw there => nomatch there⟩
  | cons raw rest ih =>
    obtain ⟨next, same⟩ := handleText_inSync sync raw
    obtain ⟨later, outcomes⟩ := ih next
    rw [runFrames_cons, runFrames_cons]
    refine ⟨later, fun i other there less => ?_⟩
    cases i with
    | zero =>
      cases there
      exact ⟨_, rfl, congrArg some (same less).symm⟩
    | succ i => exact outcomes i other there less

/-- Whatever two routers held before, from a snapshot on that can be decoded their trees agree after
every frame but for log lines, both are up to date, and every frame comes to the same in both, changes
of nodes above all; only events and log lines may not. The routers need not even agree in how much
they keep, but in the namespace of the root. -/
theorem runFrames_resync {r r' : Router}
    (configured : r.store.fluxNamespace = r'.store.fluxNamespace) {snapshot : String}
    (brings : (broughtTree? snapshot).isSome) (frames : List String) :
    (∀ stage, stage <+: frames →
      ((r.runFrames (snapshot :: stage)).1.store.tree.eraseLogs =
          (r'.runFrames (snapshot :: stage)).1.store.tree.eraseLogs ∧
        (r.runFrames (snapshot :: stage)).1.needsResync = false ∧
        (r'.runFrames (snapshot :: stage)).1.needsResync = false)) ∧
      ∀ (i : Nat) (raw : String), (snapshot :: frames)[i]? = some raw → ¬ GoesByMore raw →
        ∃ o, (r.runFrames (snapshot :: frames)).2[i]? = some o ∧
          (r'.runFrames (snapshot :: frames)).2[i]? = some o := by
  obtain ⟨t, brought⟩ := Option.isSome_iff_exists.1 brings
  have here := handleText_of_broughtTree brought r
  have there := handleText_of_broughtTree brought r'
  have sync : InSync (r.handleText snapshot).1 (r'.handleText snapshot).1 := by
    rw [here, there]
    refine ⟨?_, rfl, rfl⟩
    show (r.store.replaceTree t).bare = (r'.store.replaceTree t).bare
    rw [Store.bare_replaceTree, Store.bare_replaceTree, configured]
  refine ⟨fun stage _ => ?_, fun i raw present less => ?_⟩
  · have after := (runFrames_inSync sync stage).1
    rw [runFrames_cons, runFrames_cons]
    exact ⟨after.trees, after.current, after.current'⟩
  · rw [runFrames_cons, runFrames_cons]
    cases i with
    | zero => exact ⟨.treeReplaced t.size, by rw [here]; rfl, by rw [there]; rfl⟩
    | succ i => exact (runFrames_inSync sync frames).2 i raw present less

/-- A router that has kept a tree, a selection and an event through a loss of the connection. -/
def longRunning : Router :=
  (start (.empty "flux-system" 2) (.empty 3)).run
    [.connection .connected, .frame (frameText "tree" (recordText "r" "")),
      .frame (frameText "resource_add" (recordText "old" ",\"parentId\":\"r\"")),
      .operation (.select "r") (.refl true),
      .frame (frameText "event" ("\x7b\"uid\":\"e\",\"firstObserved\":\"2025-01-01T00:00:00Z\"," ++
        "\"lastObserved\":\"2025-01-01T00:00:00Z\"\x7d")),
      .connection .disconnected]

/-- A log line of the root, and a new node. -/
def afterSnapshot : List String :=
  [frameText "log" "\x7b\"uid\":\"r\",\"log\":\"started\",\"timestamp\":\"2025-01-01T00:00:00Z\"\x7d",
    frameText "resource_add" (recordText "old" ",\"parentId\":\"r\"")]

/-- The log line is kept by the one router alone, and the node is new in both. -/
theorem runFrames_resync_longRunning :
    longRunning.store.fluxNamespace = "flux-system" ∧
      (broughtTree? (frameText "tree" (recordText "r" ""))).isSome ∧
      longRunning.needsResync = true ∧
      ((start (.empty "flux-system" 10) (.empty 10)).runFrames
          (frameText "tree" (recordText "r" "") :: afterSnapshot)).1.store.tree.eraseLogs =
        (longRunning.runFrames
          (frameText "tree" (recordText "r" "") :: afterSnapshot)).1.store.tree.eraseLogs ∧
      (longRunning.runFrames (frameText "tree" (recordText "r" "") :: afterSnapshot)).2[2]? =
        some (.delta .add .applied) := by
  have evaluated : longRunning.store.fluxNamespace = "flux-system" ∧
      (broughtTree? (frameText "tree" (recordText "r" ""))).isSome ∧
      longRunning.needsResync = true ∧ ¬ GoesByMore afterSnapshot[1] ∧
      ((start (.empty "flux-system" 10) (.empty 10)).runFrames
        (frameText "tree" (recordText "r" "") :: afterSnapshot)).2[2]? =
          some (.delta .add .applied) := by
    decide +kernel
  obtain ⟨configured, brings, stale, less, added⟩ := evaluated
  obtain ⟨trees, outcomes⟩ := runFrames_resync (r := start (.empty "flux-system" 10) (.empty 10))
    configured.symm brings afterSnapshot
  obtain ⟨o, here, there⟩ := outcomes 2 afterSnapshot[1] rfl less
  rw [added] at here
  cases here
  exact ⟨configured, brings, stale, (trees afterSnapshot (List.prefix_refl _)).1, there⟩

end ResourceTree.Router
