import Mathlib.Data.List.Induction
import ResourceTree.Proofs.Realtime.Resync

/-!
# Losses of the connection

The channel carries nothing over a loss of the connection: behind one the tree is out of date until a
snapshot is taken, and the client has no id until it is greeted again. Reports of the connection and
frames come in any order, a loss may be reported many times, and a snapshot may come before any
connection. `upToDate_run` reads what a router says of all this off the signals since the last loss.
-/

namespace ResourceTree
set_option autoImplicit false

namespace Signal

/-- The state of the connection that a signal reports. -/
def link? : Signal → Option ConnectionState
  | .connection state => some state
  | .frame _ | .operation .. => none

/-- The client id that a signal greets the client with, if it is a greeting; it may be missing. -/
def greeting? : Signal → Option (Option String)
  | .frame raw =>
    match Envelope.ofText raw with
    | .ok e => if e.kind? = some .connected then some e.clientId else none
    | .error _ => none
  | .connection _ | .operation .. => none

end Signal

/-- The state of the connection after signals: the one that was reported last. -/
def linkAfter (signals : List Signal) : ConnectionState :=
  (signals.filterMap Signal.link?).getLast?.getD .disconnected

/-- Something holds of the signal at a place, and of those before it. -/
def HappensAt (P : List Signal → Signal → Prop) (signals : List Signal) (i : Nat) : Prop :=
  ∃ x, signals[i]? = some x ∧ P (signals.take i) x

/-- A signal reports that the connection is gone, and it was not before. -/
def Loses (earlier : List Signal) (x : Signal) : Prop :=
  x = .connection .disconnected ∧ linkAfter earlier ≠ .disconnected

/-- From a place on the connection is not lost any more; it was lost right before, or never. -/
structure SinceLoss (signals : List Signal) (since : Nat) : Prop where
  start : since = 0 ∨ ∃ i, since = i + 1 ∧ HappensAt Loses signals i
  kept : ∀ i, since ≤ i → ¬ HappensAt Loses signals i

/-! ## One more signal -/

section Concat

variable {P : List Signal → Signal → Prop} {signals : List Signal} {x : Signal} {since : Nat}

theorem happensAt_lt {i : Nat} (happens : HappensAt P signals i) : i < signals.length := by
  obtain ⟨x, there, -⟩ := happens
  exact (List.getElem?_eq_some_iff.1 there).1

/-- One more signal happens last. -/
theorem happensAt_concat {i : Nat} :
    HappensAt P (signals ++ [x]) i ↔ HappensAt P signals i ∨ i = signals.length ∧ P signals x := by
  constructor
  · rintro ⟨y, there, holds⟩
    rcases Nat.lt_trichotomy i signals.length with earlier | rfl | later
    · rw [List.getElem?_append_left earlier] at there
      rw [List.take_append_of_le_length (Nat.le_of_lt earlier)] at holds
      exact .inl ⟨y, there, holds⟩
    · rw [List.getElem?_concat_length] at there
      cases there
      rw [List.take_left] at holds
      exact .inr ⟨rfl, holds⟩
    · rw [List.getElem?_eq_none (by rwa [List.length_append, List.length_singleton])] at there
      cases there
  · rintro (happens | ⟨rfl, holds⟩)
    · have earlier := happensAt_lt happens
      obtain ⟨y, there, holds⟩ := happens
      refine ⟨y, ?_, ?_⟩
      · rw [List.getElem?_append_left earlier, there]
      · rwa [List.take_append_of_le_length (Nat.le_of_lt earlier)]
    · exact ⟨x, List.getElem?_concat_length, by rwa [List.take_left]⟩

/-- Something happens in a longer stretch if it happens in the shorter one or happens last. -/
theorem exists_happensAt_concat (within : since ≤ signals.length) :
    (∃ i, since ≤ i ∧ HappensAt P (signals ++ [x]) i) ↔
      (∃ i, since ≤ i ∧ HappensAt P signals i) ∨ P signals x := by
  constructor
  · rintro ⟨i, behind, happens⟩
    rcases happensAt_concat.1 happens with earlier | ⟨-, last⟩
    · exact .inl ⟨i, behind, earlier⟩
    · exact .inr last
  · rintro (⟨i, behind, happens⟩ | last)
    · exact ⟨i, behind, happensAt_concat.2 (.inl happens)⟩
    · exact ⟨signals.length, within, happensAt_concat.2 (.inr ⟨rfl, last⟩)⟩

theorem linkAfter_concat : linkAfter (signals ++ [x]) = x.link?.getD (linkAfter signals) := by
  rw [linkAfter, linkAfter, List.filterMap_append, List.getLast?_append]
  cases reported : x.link? with
  | none => rw [List.filterMap_cons_none reported]; rfl
  | some state => rw [List.filterMap_cons_some reported]; rfl

theorem SinceLoss.le_length (behind : SinceLoss signals since) : since ≤ signals.length := by
  rcases behind.start with rfl | ⟨i, rfl, happens⟩
  · exact Nat.zero_le _
  · exact happensAt_lt happens

/-- After a loss the stretch begins anew. -/
theorem SinceLoss.lost (loses : Loses signals x) :
    SinceLoss (signals ++ [x]) (signals.length + 1) := by
  have last : HappensAt Loses (signals ++ [x]) signals.length := happensAt_concat.2 (.inr ⟨rfl, loses⟩)
  refine ⟨.inr ⟨signals.length, rfl, last⟩, fun i behind happens => ?_⟩
  have within := happensAt_lt happens
  rw [List.length_append, List.length_singleton] at within
  omega

/-- A signal that loses nothing makes the stretch longer. -/
theorem SinceLoss.concat (behind : SinceLoss signals since) (keeps : ¬ Loses signals x) :
    SinceLoss (signals ++ [x]) since := by
  constructor
  · rcases behind.start with first | ⟨i, next, happens⟩
    · exact .inl first
    · exact .inr ⟨i, next, happensAt_concat.2 (.inl happens)⟩
  · intro i later happens
    rcases happensAt_concat.1 happens with earlier | ⟨-, loses⟩
    · exact behind.kept i later earlier
    · exact keeps loses

end Concat

/-- The kind of the frames that have an outcome, where it shows that. -/
def Outcome.kind? : Outcome → Option MessageKind
  | .treeReplaced _ => some .tree
  | .connected _ => some .connected
  | .delta .. | .logAppended | .event .. | .heartbeat | .ignored _ | .dropped _ => none

namespace Router

/-- A snapshot comes to a router that has taken in some signals, and it is taken. -/
def Replaces (first : Router) (earlier : List Signal) (x : Signal) : Prop :=
  ∃ raw nodes, x = .frame raw ∧ kindOf? raw = some .tree ∧
    ((first.run earlier).handleText raw).2 = .treeReplaced nodes

theorem run_concat (r : Router) (signals : List Signal) (x : Signal) :
    r.run (signals ++ [x]) = (r.run signals).receive x := by
  rw [run, run, List.foldl_append, List.foldl_cons, List.foldl_nil]

/-! ## What a signal does -/

section Receive

variable {r : Router} {kind : MessageKind} {e : Envelope} {x : Router × Outcome} {raw : String}

/-- Only a snapshot replaces the tree, and only a greeting greets. -/
theorem dispatch_kind (routed : r.dispatch kind e = .ok x) :
    x.2.kind? = none ∨ x.2.kind? = some kind := by
  cases kind with
  | tree =>
    obtain ⟨t, -, h⟩ := bind_eq_ok.1 routed
    cases pure_eq_ok.1 h
    exact .inr rfl
  | resourceAdd | resourceUpdate | resourceRemove | resource =>
    simp only [dispatch] at routed
    split at routed
    · rw [handleDelta_eq] at routed
      obtain ⟨d, -, rfl⟩ := map_eq_ok.1 routed
      exact .inl rfl
    · cases routed
      exact .inl rfl
  | event =>
    obtain ⟨w, -, h⟩ := bind_eq_ok.1 routed
    obtain ⟨event, -, h⟩ := bind_eq_ok.1 h
    cases pure_eq_ok.1 h
    exact .inl rfl
  | log =>
    obtain ⟨w, -, h⟩ := bind_eq_ok.1 routed
    obtain ⟨⟨uid, line⟩, -, h⟩ := bind_eq_ok.1 h
    simp only at h
    split at h
    · split at h
      · cases pure_eq_ok.1 h
        exact .inl rfl
      · cases pure_eq_ok.1 h
        exact .inl rfl
    · cases pure_eq_ok.1 h
      exact .inl rfl
  | connected =>
    cases routed
    exact .inr rfl
  | ping | pong | startWatchLogs =>
    cases routed
    exact .inl rfl

/-- A frame that is reported under a kind is one of that kind. -/
theorem handleText_kind (shown : (r.handleText raw).2.kind? = some kind) :
    kindOf? raw = some kind := by
  cases read : Envelope.ofText raw with
  | error f =>
    rw [handleText, read] at shown
    cases shown
  | ok e =>
    have same : kindOf? raw = e.kind? := by rw [kindOf?, read]
    rw [handleText_of_envelope read] at shown
    rw [same]
    cases known : e.kind? with
    | none =>
      rw [handle, known] at shown
      cases shown
    | some routedAs =>
      rw [handle_of_kind known] at shown
      cases routed : r.dispatch routedAs e with
      | error err =>
        rw [routed] at shown
        cases shown
      | ok x =>
        rw [routed] at shown
        rcases dispatch_kind routed with silent | own
        · cases silent.symm.trans shown
        · exact own.symm.trans shown

/-- A frame leaves the connection as it is, and the tree is up to date behind a snapshot. -/
theorem Routed.current {r' : Router} {o : Outcome} (h : Routed r r' o) :
    r'.connection = r.connection ∧
      (r'.needsResync = false ↔ r.needsResync = false ∨ ∃ nodes, o = .treeReplaced nodes) := by
  cases h with
  | treeReplaced => exact ⟨rfl, iff_of_true rfl (.inr ⟨_, rfl⟩)⟩
  | delta | logAppended | event | connected | heartbeat | ignored | dropped =>
    exact ⟨rfl, (or_iff_left nofun).symm⟩

/-- No frame but the greeting of the server changes the client id. -/
theorem Routed.clientId {r' : Router} {o : Outcome} (h : Routed r r' o)
    (other : ∀ clientId, o ≠ .connected clientId) : r'.clientId = r.clientId := by
  cases h with
  | connected clientId => exact absurd rfl (other clientId)
  | treeReplaced | delta | logAppended | event | heartbeat | ignored | dropped => rfl

/-- A client id as it is kept: an empty one is none. -/
def keptId (clientId : Option String) : Option String := clientId.filter (· ≠ "")

/-- A frame sets the client id if it is a greeting, and to nothing if it has none. -/
theorem handleText_clientId (r : Router) (raw : String) :
    (r.handleText raw).1.clientId = ((Signal.frame raw).greeting?.map keptId).getD r.clientId := by
  cases read : Envelope.ofText raw with
  | error f =>
    rw [handleText, read, Signal.greeting?, read]
    rfl
  | ok e =>
    by_cases greets : e.kind? = some .connected
    · rw [handleText_of_envelope read, handle_of_kind greets, Signal.greeting?, read]
      simp only [greets, if_true]
      rfl
    · have greeted : kindOf? raw ≠ some .connected := by rwa [kindOf?, read]
      have other : ∀ clientId, (r.handleText raw).2 ≠ .connected clientId := fun clientId greeting =>
        greeted (handleText_kind (congrArg Outcome.kind? greeting))
      rw [(handleText_routed r raw).clientId other, Signal.greeting?, read]
      simp only [greets, if_false]
      rfl

/-- The connection is in the state that was reported last. -/
theorem receive_connection (r : Router) (x : Signal) :
    (r.receive x).connection = x.link?.getD r.connection := by
  cases x with
  | frame raw => exact (handleText_routed r raw).current.1
  | connection state =>
    rw [receive, onConnection]
    split <;> rfl
  | operation o here => rfl

end Receive

/-- So it is after any signals. -/
theorem run_connection (first : Router) (gone : first.connection = .disconnected)
    (signals : List Signal) : (first.run signals).connection = linkAfter signals := by
  induction signals using List.reverseRecOn with
  | nil => exact gone
  | append_singleton signals x ih =>
    rw [run_concat, receive_connection, linkAfter_concat, ih]

/-! ## The signals since the last loss -/

/-- What a router says follows from the signals since a place: whether a snapshot was taken, and how
the client was greeted last. -/
structure FollowsSince (first : Router) (signals : List Signal) (since : Nat) : Prop where
  current : (first.run signals).needsResync = false ↔
    ∃ i, since ≤ i ∧ HappensAt first.Replaces signals i
  client : (first.run signals).clientId =
    keptId ((signals.drop since).filterMap Signal.greeting?).getLast?.join

section Step

variable {first : Router} {signals : List Signal} {x : Signal} {since : Nat}

/-- A loss asks for a new snapshot and forgets the client id. -/
theorem receive_of_loses {r : Router} (link : r.connection = linkAfter signals)
    (loses : Loses signals x) :
    (r.receive x).needsResync = true ∧ (r.receive x).clientId = none := by
  obtain ⟨rfl, before⟩ := loses
  rw [receive, onConnection, if_pos ⟨rfl, link ▸ before⟩]
  exact ⟨rfl, rfl⟩

/-- A state without a loss is noted, and nothing else. -/
theorem onConnection_of_keeps {r : Router} {state : ConnectionState}
    (link : r.connection = linkAfter signals) (keeps : ¬ Loses signals (.connection state)) :
    r.onConnection state = { r with connection := state } := by
  rw [onConnection, if_neg]
  rintro ⟨rfl, before⟩
  exact keeps ⟨rfl, link ▸ before⟩

/-- Without a loss, a router needs no snapshot if it needed none, or if this signal replaces the
tree. -/
theorem receive_current (link : (first.run signals).connection = linkAfter signals)
    (keeps : ¬ Loses signals x) :
    ((first.run signals).receive x).needsResync = false ↔
      (first.run signals).needsResync = false ∨ first.Replaces signals x := by
  cases x with
  | frame raw =>
    rw [receive, (handleText_routed _ raw).current.2]
    refine or_congr_right ⟨?_, ?_⟩
    · rintro ⟨nodes, taken⟩
      exact ⟨raw, nodes, rfl, handleText_kind (congrArg Outcome.kind? taken), taken⟩
    · rintro ⟨_, nodes, same, -, taken⟩
      cases same
      exact ⟨nodes, taken⟩
  | connection state =>
    rw [receive, onConnection_of_keeps link keeps, or_iff_left]
    rintro ⟨raw, nodes, other, -⟩
    cases other
  | operation o here =>
    rw [receive, or_iff_left]
    rintro ⟨raw, nodes, other, -⟩
    cases other

/-- Without a loss, the client id is that of this greeting or the one from before. -/
theorem receive_clientId {r : Router} (link : r.connection = linkAfter signals)
    (keeps : ¬ Loses signals x) :
    (r.receive x).clientId = (x.greeting?.map keptId).getD r.clientId := by
  cases x with
  | frame raw => exact handleText_clientId r raw
  | connection state =>
    rw [receive, onConnection_of_keeps link keeps]
    rfl
  | operation o here => rfl

/-- After a loss the router follows an empty stretch. -/
theorem FollowsSince.lost (link : (first.run signals).connection = linkAfter signals)
    (loses : Loses signals x) : FollowsSince first (signals ++ [x]) (signals.length + 1) := by
  obtain ⟨stale, nameless⟩ := receive_of_loses link loses
  have whole : (signals ++ [x]).length = signals.length + 1 := List.length_append
  constructor
  · rw [run_concat, stale]
    refine iff_of_false nofun ?_
    rintro ⟨i, behind, happens⟩
    exact absurd (happensAt_lt happens) (Nat.not_lt.2 (whole ▸ behind))
  · rw [run_concat, nameless, List.drop_eq_nil_of_le (Nat.le_of_eq whole)]
    rfl

/-- A signal that loses nothing is followed. -/
theorem FollowsSince.concat (follows : FollowsSince first signals since)
    (link : (first.run signals).connection = linkAfter signals) (within : since ≤ signals.length)
    (keeps : ¬ Loses signals x) : FollowsSince first (signals ++ [x]) since := by
  constructor
  · rw [run_concat, receive_current link keeps, follows.current, exists_happensAt_concat within]
  · rw [run_concat, receive_clientId link keeps, follows.client,
      List.drop_append_of_le_length within, List.filterMap_append, List.getLast?_append]
    cases greets : x.greeting? with
    | none => rw [List.filterMap_cons_none greets]; rfl
    | some clientId => rw [List.filterMap_cons_some greets]; rfl

end Step

/-- Whatever a new router takes in, it is up to date exactly if a snapshot was taken since the connection
was lost last, or at all if it never was, and its client id is the one of the last greeting since then,
none if there was no greeting or it came without an id or with an empty one. -/
theorem upToDate_run (store : Store) (events : EventLog) (signals : List Signal) :
    ∃ since, SinceLoss signals since ∧ FollowsSince (start store events) signals since := by
  induction signals using List.reverseRecOn with
  | nil =>
    have never : ∀ {P : List Signal → Signal → Prop} {i : Nat}, ¬ HappensAt P [] i :=
      fun happens => Nat.not_lt_zero _ (happensAt_lt happens)
    refine ⟨0, ⟨.inl rfl, fun _ _ => never⟩, ?_, rfl⟩
    exact iff_of_false nofun fun ⟨_, _, happens⟩ => never happens
  | append_singleton signals x ih =>
    obtain ⟨since, behind, follows⟩ := ih
    have link := run_connection (start store events) rfl signals
    by_cases loses : Loses signals x
    · exact ⟨signals.length + 1, .lost loses, .lost link loses⟩
    · exact ⟨since, behind.concat loses, follows.concat link behind.le_length loses⟩

/-- A loss that is reported twice, before and after a snapshot, and a greeting between the reports. -/
example :
    let greeting := Signal.frame "\x7b\"type\":\"connected\",\"clientId\":\"c\",\"message\":null\x7d"
    let snapshot := Signal.frame (frameText "tree" (recordText "r" ""))
    let lost := Signal.connection .disconnected
    let told := fun signals : List Signal =>
      let r := (start (.empty "flux-system" 10) (.empty 10)).run signals
      (r.needsResync, r.clientId)
    told [snapshot, greeting, lost] = (false, some "c") ∧
      told [.connection .connected, snapshot, greeting, lost] = (true, none) ∧
      told [.connection .connected, lost, snapshot, lost, greeting, lost] = (false, some "c") := by
  decide +kernel

end Router

end ResourceTree
