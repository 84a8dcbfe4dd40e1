import ResourceTree.Command.Run
import ResourceTree.Proofs.Realtime.Resync
import ResourceTree.Proofs.Snapshot.Refusals
import ResourceTree.Proofs.Text.Lines

/-!
# One line for each frame

What is said of a frame stands on one line, unless it takes over a text of the frame as it is: a kind
that is not known, or the id of the client. The texts of an event lose their line feeds, but not their
carriage returns. All else that is taken over is quoted, in refusals as well.
-/

namespace ResourceTree
set_option autoImplicit false

open Text (IsBreak Unbroken unbroken_nat)

variable {c : Char}

/-! ## Outcomes -/

/-- The character stands in a text that the line for an outcome takes over as it is. -/
def Outcome.Shows (c : Char) : Outcome → Prop
  | .event _ notice => c ≠ '\n' ∧ ∃ n ∈ notice, c ∈ n.text.toList
  | .connected clientId => ∃ id ∈ clientId, c ∈ id.toList
  | .ignored text | .dropped text => c ∈ text.toList
  | .treeReplaced _ | .delta _ _ | .logAppended | .heartbeat => False

namespace Summary

/-- A notice shows the breaks of its text but for line feeds. -/
theorem mem_notice_iff (broken : IsBreak c) (n : Notice) :
    c ∈ (notice n).toList ↔ c ≠ '\n' ∧ c ∈ n.text.toList := by
  have level : Unbroken (" (" ++ n.level.name ++ ": ") := by cases n.level <;> decide
  have closed : Unbroken ")" := by decide
  rw [notice, closed.mem_append_left broken, level.mem_append broken, String.toList_ofList,
    List.mem_filter, decide_eq_true_eq, and_comm]

/-- A line break in the line for an outcome comes from a text that the line takes over. -/
theorem mem_ofOutcome_iff (broken : IsBreak c) (o : Outcome) :
    c ∈ (ofOutcome o).toList ↔ o.Shows c := by
  have closed : Unbroken ")" := by decide
  cases o with
  | treeReplaced nodes =>
    have whole : Unbroken ("tree replaced (" ++ toString nodes ++ " nodes)") :=
      .append (.append (by decide) (unbroken_nat nodes)) (by decide)
    exact iff_of_false (whole.not_mem broken) id
  | delta op result =>
    have whole : Unbroken (op.name ++ " -> " ++ result.name) :=
      .append (.append (by cases op <;> decide) (by decide)) (by cases result <;> decide)
    exact iff_of_false (whole.not_mem broken) id
  | logAppended | heartbeat =>
    exact iff_of_false (Unbroken.not_mem (by decide) broken) id
  | event added notice =>
    have opening : Unbroken (if added then "event added" else "event duplicate") := by
      cases added <;> decide
    refine (opening.mem_append broken _).trans ?_
    cases notice with
    | none => simp [Outcome.Shows]
    | some n => simp [Outcome.Shows, mem_notice_iff broken]
  | connected clientId =>
    have opening : Unbroken "connected (" := by decide
    have absent : Unbroken "-" := by decide
    refine ((closed.mem_append_left broken _).trans (opening.mem_append broken _)).trans ?_
    cases clientId with
    | none => simpa [Outcome.Shows] using absent.not_mem broken
    | some id => simp [Outcome.Shows]
  | ignored kind => exact Unbroken.mem_append (by decide) broken kind
  | dropped reason => exact Unbroken.mem_append (by decide) broken reason

end Summary

/-! ## Frames -/

/-- The character stands in a text of the frame that its line takes over as it is. -/
def Envelope.Shows (e : Envelope) (c : Char) : Prop :=
  match e.kind? with
  | none => c ∈ e.type.toList
  | some .connected => ∃ id ∈ e.clientId, c ∈ id.toList
  | some .event =>
    c = '\r' ∧ ∃ w d, Snapshot.readValue Wire.Event.read e.message = .ok w ∧
      Decode.event w = .ok d ∧ w.type ≠ "Normal" ∧
      (c ∈ w.kind.toList ∨ c ∈ w.name.toList ∨ c ∈ w.reason.toList ∨ c ∈ w.message.toList)
  | some _ => False

namespace Envelope

theorem fair_read : Json.Reader.Fair read :=
  Json.RecordShape.fair_reader (by decide)
    (fun _ => (Json.Fields.reads_required Json.Reader.fair_text (by decide)).map _
      |>.seq (Json.Fields.reads_optional Json.Reader.fair_text)
      |>.seq (Json.Fields.reads_optional Json.Reader.fair_text)
      |>.seq (Json.Fields.reads_withDefault Json.Reader.fair_value .null))
    (by decide)

/-- The name of a known kind stands on one line, in any case. -/
theorem unbroken_type {e : Envelope} {kind : MessageKind} (known : e.kind? = some kind) :
    Unbroken e.type := by
  have named : kind.name = e.type.toLower := by simpa using List.find?_some known
  refine Unbroken.of_toLower ?_
  rw [← named]
  cases kind <;> decide

end Envelope

namespace Router

variable {r r' : Router} {o : Outcome} {e : Envelope}

/-- Every refusal of a payload is worded in one line. -/
theorem clean_dispatch (r : Router) (kind : MessageKind) (e : Envelope) :
    Snapshot.CleanIn (r.dispatch kind e) := by
  have tree : Snapshot.CleanIn (deltaTree e.message) :=
    (Snapshot.clean_readValue Wire.fair_node _).bind Snapshot.clean_decode
  cases kind with
  | tree =>
    refine RefusedFor.bind ?_ fun t => .ok _
    unfold snapshotOf
    split
    · exact Snapshot.clean_decodeCompressed _
    · exact tree
  | resource | resourceAdd | resourceUpdate | resourceRemove =>
    simp only [dispatch]
    split
    · next op _ =>
      rw [handleDelta_eq]
      refine RefusedFor.map _ ?_
      cases op with
      | add | update => exact tree.map _
      | remove => exact (Snapshot.clean_readValue Wire.fair_nodeRef _).map _
    · exact .ok _
  | event =>
    exact (Snapshot.clean_readValue Wire.fair_event _).bind fun w =>
      (Snapshot.clean_record (Decode.clean_event w)).bind fun _ => .ok _
  | log =>
    refine (Snapshot.clean_readValue Wire.fair_log _).bind fun w =>
      (Snapshot.clean_record (Decode.clean_log w)).bind fun decoded => ?_
    obtain ⟨uid, line⟩ := decoded
    simp only
    split
    · split <;> exact .ok _
    · exact .ok _
  | connected | ping | pong | startWatchLogs => exact .ok _

/-- A notice takes its carriage returns from the names and the texts of its event. -/
theorem mem_noticeOf_iff (w : Wire.Event) :
    (∃ n ∈ noticeOf w, '\r' ∈ n.text.toList) ↔ w.type ≠ "Normal" ∧
      ('\r' ∈ w.kind.toList ∨ '\r' ∈ w.name.toList ∨ '\r' ∈ w.reason.toList ∨
        '\r' ∈ w.message.toList) := by
  by_cases normal : w.type = "Normal"
  · simp [noticeOf, normal]
  · rw [noticeOf, if_neg normal]
    simp [normal]

/-- The outcomes of frames other than events and greetings take over nothing. -/
theorem not_shows_of_dispatch {kind : MessageKind} (known : e.kind? = some kind)
    (notEvent : kind ≠ .event) (notConnected : kind ≠ .connected) (broken : IsBreak c)
    (routed : r.dispatch kind e = .ok (r', o)) : ¬ o.Shows c := by
  have ownKind : c ∉ e.type.toList := (Envelope.unbroken_type known).not_mem broken
  cases kind with
  | event => exact absurd rfl notEvent
  | connected => exact absurd rfl notConnected
  | tree =>
    obtain ⟨t, -, h⟩ := bind_eq_ok.1 routed
    cases pure_eq_ok.1 h
    exact id
  | resource | resourceAdd | resourceUpdate | resourceRemove =>
    simp only [dispatch] at routed
    split at routed
    · rw [handleDelta_eq] at routed
      obtain ⟨d, -, h⟩ := map_eq_ok.1 routed
      cases h
      exact id
    · cases routed
      exact ownKind
  | log =>
    have named : c ∉ MessageKind.log.name.toList := Unbroken.not_mem (by decide) broken
    obtain ⟨w, -, h⟩ := bind_eq_ok.1 routed
    obtain ⟨⟨uid, line⟩, -, h⟩ := bind_eq_ok.1 h
    simp only at h
    split at h
    · split at h
      · cases pure_eq_ok.1 h
        exact id
      · cases pure_eq_ok.1 h
        exact named
    · cases pure_eq_ok.1 h
      exact named
  | ping | pong =>
    cases routed
    exact id
  | startWatchLogs =>
    cases routed
    exact ownKind

theorem handle_of_dispatch {kind : MessageKind} (known : e.kind? = some kind) {x : Router × Outcome}
    (routed : r.dispatch kind e = .ok x) : r.handle e = x := by
  rw [handle_of_kind known, routed]

/-- A frame that is dropped is described on one line. -/
theorem not_shows_of_refused (broken : IsBreak c) {kind : MessageKind} (known : e.kind? = some kind)
    {err : PayloadError} (refused : r.dispatch kind e = .error err) : ¬ (r.handle e).2.Shows c := by
  rw [handle_of_kind known, refused]
  exact (clean_dispatch r kind e err refused).not_mem broken

theorem dispatch_event {w : Wire.Event} (r : Router)
    (taken : Snapshot.readValue Wire.Event.read e.message = .ok w) :
    r.dispatch .event e = (fun d => ({ r with events := (r.events.add d).1 },
      .event (r.events.add d).2 (noticeOf w))) <$> (Decode.event w).mapError .record := by
  rw [dispatch, handleEvent, taken]
  show (Decode.event w).mapError PayloadError.record >>= _ = _
  cases Decode.event w with
  | error err => rfl
  | ok d => rfl

/-- The notice of an event shows what its text holds. -/
theorem event_shows_iff (broken : IsBreak c) (r : Router) (known : e.kind? = some .event) :
    (r.handle e).2.Shows c ↔ e.Shows c := by
  simp only [Envelope.Shows, known]
  cases read : Snapshot.readValue Wire.Event.read e.message with
  | error err =>
    have refused : r.dispatch .event e = .error err := by
      rw [dispatch, handleEvent, read]
      rfl
    refine iff_of_false (not_shows_of_refused broken known refused) ?_
    rintro ⟨-, w, d, ⟨⟩, -⟩
  | ok w =>
    cases decoded : Decode.event w with
    | error err =>
      have refused : r.dispatch .event e = .error (.record err) := by
        rw [dispatch_event r read, decoded]
        rfl
      refine iff_of_false (not_shows_of_refused broken known refused) ?_
      rintro ⟨-, w', d, ⟨⟩, taken, -⟩
      rw [decoded] at taken
      cases taken
    | ok d =>
      have routed : r.dispatch .event e = .ok
          ({ r with events := (r.events.add d).1 }, .event (r.events.add d).2 (noticeOf w)) := by
        rw [dispatch_event r read, decoded]
        rfl
      rw [handle_of_dispatch known routed]
      -- the notice loses its line feeds, so that the break is a carriage return
      constructor
      · rintro ⟨other, noticed⟩
        obtain rfl : c = '\r' := broken.resolve_left other
        exact ⟨rfl, w, d, rfl, decoded, (mem_noticeOf_iff w).1 noticed⟩
      · rintro ⟨rfl, w', d', ⟨⟩, -, taken⟩
        exact ⟨by decide, (mem_noticeOf_iff w).2 taken⟩

/-- A greeting shows the client id as it came. -/
theorem connected_shows_iff (r : Router) (known : e.kind? = some .connected) :
    (r.handle e).2.Shows c ↔ e.Shows c := by
  rw [handle_of_dispatch known rfl]
  simp only [Envelope.Shows, known]
  show (∃ id ∈ e.clientId.filter (· ≠ ""), c ∈ id.toList) ↔ ∃ id ∈ e.clientId, c ∈ id.toList
  constructor
  · rintro ⟨id, named, member⟩
    exact ⟨id, (Option.mem_filter_iff.1 named).1, member⟩
  · rintro ⟨id, named, member⟩
    have filled : id ≠ "" := by
      rintro rfl
      exact List.not_mem_nil member
    exact ⟨id, Option.mem_filter_iff.2 ⟨named, decide_eq_true filled⟩, member⟩

/-- The line for a frame shows the breaks that stand in the frame's own texts, and no other. -/
theorem handle_shows_iff (broken : IsBreak c) (r : Router) (e : Envelope) :
    (r.handle e).2.Shows c ↔ e.Shows c := by
  cases known : e.kind? with
  | none => simp only [handle, Envelope.Shows, known, Outcome.Shows]
  | some kind =>
    by_cases event : kind = .event
    · exact event_shows_iff broken r (event ▸ known)
    by_cases connected : kind = .connected
    · exact connected_shows_iff r (connected ▸ known)
    -- the other kinds take over nothing but their own name
    have silent : ¬ e.Shows c := by
      cases kind with
      | event => exact absurd rfl event
      | connected => exact absurd rfl connected
      | _ => simp only [Envelope.Shows, known, not_false_eq_true]
    refine iff_of_false ?_ silent
    cases routed : r.dispatch kind e with
    | error err => exact not_shows_of_refused broken known routed
    | ok x =>
      rw [handle_of_dispatch known routed]
      exact not_shows_of_dispatch known event connected broken routed

/-- The line for a raw frame has the breaks of the texts that it takes over from the frame. -/
theorem mem_line_iff (broken : IsBreak c) (r : Router) (raw : String) :
    c ∈ (Summary.ofOutcome (r.handleText raw).2).toList ↔
      ∃ e, Envelope.ofText raw = .ok e ∧ e.Shows c := by
  rw [Summary.mem_ofOutcome_iff broken]
  cases read : Envelope.ofText raw with
  | error f =>
    have clean : f.Clean := Envelope.fair_read.ofText raw f read
    have dropped : (r.handleText raw).2 = .dropped f.message := by rw [handleText, read]
    rw [dropped]
    refine iff_of_false (clean.not_mem broken) ?_
    rintro ⟨e, ⟨⟩, -⟩
  | ok e =>
    rw [handleText_of_envelope read, handle_shows_iff broken]
    constructor
    · exact fun shown => ⟨e, rfl, shown⟩
    · rintro ⟨e, ⟨⟩, shown⟩
      exact shown

end Router

/-! ## Reports -/

/-- A report has a line for each entry exactly if no entry holds a line feed. -/
theorem Summary.length_lines_unlines (ls : List String) :
    ls.length ≤ (Text.lines (unlines ls)).length ∧
      ((Text.lines (unlines ls)).length = ls.length ↔ ∀ l ∈ ls, '\n' ∉ l.toList) := by
  induction ls with
  | nil => simp [unlines, Text.lines_eq_map, Text.pieces]
  | cons l ls ih =>
    obtain ⟨enough, exact'⟩ := ih
    have count : (Text.lines (unlines (l :: ls))).length =
        l.toList.count '\n' + 1 + (Text.lines (unlines ls)).length := by
      have split : (unlines (l :: ls)).toList = l.toList ++ '\n' :: (unlines ls).toList := by
        simp [unlines, String.toList_join]
      rw [Text.lines_eq_map, Text.lines_eq_map, List.length_map, List.length_map, split,
        Text.length_pieces_line]
    have free : '\n' ∉ l.toList ↔ l.toList.count '\n' = 0 := List.count_eq_zero.symm
    rw [List.forall_mem_cons, ← exact', free, List.length_cons, count]
    omega

/-- The number in front of a line has no break. -/
theorem Command.mem_numbered_iff (ls : List String) :
    (∀ l ∈ numbered ls, '\n' ∉ l.toList) ↔ ∀ l ∈ ls, '\n' ∉ l.toList := by
  have number (i : Nat) : Unbroken (Summary.padLeft 4 (toString (i + 1)) ++ ": ") := by
    refine .append (.append (Text.unbroken_ofList fun c member => ?_) (unbroken_nat _)) (by decide)
    rw [List.eq_of_mem_replicate member]
    decide
  have same : ls = ls.zipIdx.map Prod.fst := (List.zipIdx_map_fst 0 ls).symm
  conv_rhs => rw [same]
  rw [numbered, List.forall_mem_map, List.forall_mem_map]
  exact forall₂_congr fun p _ => not_congr ((number p.2).mem_append (.inl rfl) p.1)

namespace Router

/-- The outcomes of frames stand on one line each if no frame shows a line feed. -/
theorem replay_lines_iff (r : Router) (frames : List String) :
    (∀ l ∈ (r.runFrames frames).2.map Summary.ofOutcome, '\n' ∉ l.toList) ↔
      ∀ raw ∈ frames, ∀ e, Envelope.ofText raw = .ok e → ¬ e.Shows '\n' := by
  induction frames generalizing r with
  | nil => exact iff_of_true (List.forall_mem_nil _) (List.forall_mem_nil _)
  | cons raw frames ih =>
    rw [runFrames_cons, List.map_cons, List.forall_mem_cons, List.forall_mem_cons, ih,
      mem_line_iff (.inl rfl)]
    simp only [not_exists, not_and]

theorem length_runFrames (r : Router) (frames : List String) :
    (r.runFrames frames).2.length = frames.length := by
  induction frames generalizing r with
  | nil => rfl
  | cons raw frames ih => rw [runFrames_cons, List.length_cons, List.length_cons, ih]

theorem replay_snd (r : Router) (text : String) :
    (r.replay text).2 = (r.runFrames (framesOf text)).2.map Summary.ofOutcome := rfl

/-- A frame is described on one line if it shows neither a line feed nor a carriage return. -/
theorem unbroken_line_iff (r : Router) (raw : String) :
    Unbroken (Summary.ofOutcome (r.handleText raw).2) ↔
      ∀ e, Envelope.ofText raw = .ok e → ¬ e.Shows '\n' ∧ ¬ e.Shows '\r' := by
  have feed := mem_line_iff (.inl rfl) r raw
  have back := mem_line_iff (.inr rfl) r raw
  constructor
  · intro whole e read
    exact ⟨fun shown => whole.not_mem (.inl rfl) (feed.2 ⟨e, read, shown⟩),
      fun shown => whole.not_mem (.inr rfl) (back.2 ⟨e, read, shown⟩)⟩
  · rintro silent c member (rfl | rfl)
    · obtain ⟨e, read, shown⟩ := feed.1 member
      exact (silent e read).1 shown
    · obtain ⟨e, read, shown⟩ := back.1 member
      exact (silent e read).2 shown

/-- Whatever a router has met before, the line for a frame has no break if no text that it takes over
from the frame has one: an unknown kind, the id of the client, and, as far as carriage returns go, the
names and texts of an event that is worth a notice. A report has a line for each of its frames if no
such text has a line feed. -/
theorem one_line_iff (r : Router) (raw text : String) :
    (Unbroken (Summary.ofOutcome (r.handleText raw).2) ↔
      ∀ e, Envelope.ofText raw = .ok e → ¬ e.Shows '\n' ∧ ¬ e.Shows '\r') ∧
    ((Text.lines (Summary.unlines (Command.numbered (r.replay text).2))).length =
        (framesOf text).length ↔
      ∀ raw ∈ framesOf text, ∀ e, Envelope.ofText raw = .ok e → ¬ e.Shows '\n') := by
  refine ⟨unbroken_line_iff r raw, ?_⟩
  have lines : (Command.numbered (r.replay text).2).length = (framesOf text).length := by
    rw [Command.numbered, List.length_map, List.length_zipIdx, replay_snd, List.length_map,
      length_runFrames]
  rw [← lines, (Summary.length_lines_unlines _).2, Command.mem_numbered_iff, replay_snd,
    replay_lines_iff]

/-- A frame of a kind that is not known, with a line feed in it. -/
def brokenKind : String := "\x7b\"type\":\"a\\nb\"\x7d"

/-- It is one frame, and is reported on two lines. -/
theorem brokenKind_two_lines :
    ¬ Unbroken (Summary.ofOutcome ((start (.empty "flux-system" 10) (.empty 10)).handleText
      brokenKind).2) ∧
    framesOf brokenKind = [brokenKind] ∧
    Text.lines (Summary.unlines (Command.numbered
      ((start (.empty "flux-system" 10) (.empty 10)).replay brokenKind).2)) =
        ["   1: ignored a", "b"] := by
  decide +kernel

end Router

end ResourceTree
