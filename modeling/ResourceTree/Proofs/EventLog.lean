import Mathlib.Data.List.DropRight
import Mathlib.Data.List.Nodup
import ResourceTree.EventLog

/-!
# The event list as a bounded queue

Seen from outside, the list of cluster events is a queue of limited length that takes no uid twice.
`Operation.onQueue` says what each operation does to such a queue, and `run_eq_queue` that the list,
with its set of known uids beside it, does the same along every history. The set always holds the
uids of the queue and no others: it is this that lets an event come back once it has given way.
-/

namespace ResourceTree.EventLog
set_option autoImplicit false

/-- The uids of the events that are kept, oldest first. -/
def uids (l : EventLog) : List String := l.events.map (·.uid)

/-- A queue takes an event of a uid that it does not hold, and keeps its last events. -/
def enqueue (capacity : Nat) (queue : List Event) (e : Event) : List Event :=
  if e.uid ∈ queue.map (·.uid) then queue else (queue ++ [e]).rtake capacity

/-- An event that is in the queue is not queued again. -/
theorem enqueue_of_held {queue : List Event} {e : Event} (held : e.uid ∈ queue.map (·.uid))
    (capacity : Nat) : enqueue capacity queue e = queue := if_pos held

/-- A new event comes last, and the queue drops its first if it is full. -/
theorem enqueue_of_new {queue : List Event} {e : Event} (new : e.uid ∉ queue.map (·.uid))
    (capacity : Nat) : enqueue capacity queue e = (queue ++ [e]).rtake capacity := if_neg new

/-- The queue after an operation. -/
def Operation.onQueue (capacity : Nat) (queue : List Event) : Operation → List Event
  | .add e => enqueue capacity queue e
  | .setEvents events => events.foldl (enqueue capacity) []
  | .togglePanel | .clearHints => queue

/-- The known uids are those of the events, each of which is kept once and within the limit. -/
structure InStep (l : EventLog) : Prop where
  distinct : l.uids.Nodup
  known : ∀ uid, uid ∈ l.seen ↔ uid ∈ l.uids
  bounded : l.events.length ≤ l.limit

/-- A hint of a warning is a hint of an event, and an open panel needs none. -/
structure HintsFit (l : EventLog) : Prop where
  warned : l.hasNewWarnings = true → l.hasNew = true
  opened : l.panelOpen = true → l.hasNew = false ∧ l.hasNewWarnings = false

/-! ## Making room -/

/-- Making room drops the oldest events. -/
theorem evict_fst (limit : Nat) (seen : List String) (events : List Event) :
    (evict limit seen events).1 = events.rtake limit := by
  induction events generalizing seen with
  | nil => simp [evict]
  | cons e rest ih =>
    rw [evict]
    by_cases crowded : limit < (e :: rest).length
    · have shorter : (e :: rest).length - limit = (rest.length - limit) + 1 := by
        rw [List.length_cons] at crowded ⊢
        omega
      rw [if_pos crowded, ih, List.rtake, List.rtake, shorter, List.drop_succ_cons]
    · rw [if_neg crowded, List.rtake, Nat.sub_eq_zero_of_le (Nat.le_of_not_lt crowded), List.drop_zero]

/-- What is forgotten when events give way are their uids, as long as no uid is there twice. -/
theorem mem_evict_snd {limit : Nat} {seen : List String} {events : List Event}
    (distinct : (events.map (·.uid)).Nodup) (known : ∀ uid, uid ∈ seen ↔ uid ∈ events.map (·.uid))
    (uid : String) :
    uid ∈ (evict limit seen events).2 ↔ uid ∈ (evict limit seen events).1.map (·.uid) := by
  induction events generalizing seen with
  | nil => exact known uid
  | cons e rest ih =>
    rw [evict]
    by_cases crowded : limit < (e :: rest).length
    · rw [if_pos crowded]
      rw [List.map_cons, List.nodup_cons] at distinct
      refine ih distinct.2 fun other => ?_
      rw [List.mem_filter, known other, List.map_cons, List.mem_cons, decide_eq_true_iff]
      constructor
      · rintro ⟨rfl | later, different⟩
        · exact absurd rfl different
        · exact later
      · intro later
        exact ⟨.inr later, fun same => distinct.1 (same ▸ later)⟩
    · rw [if_neg crowded]
      exact known uid

/-! ## One event -/

/-- The log contains the uids of its events. -/
theorem contains_iff {l : EventLog} (step : InStep l) (uid : String) :
    l.contains uid = true ↔ uid ∈ l.uids := by
  rw [contains, List.contains_iff_mem, step.known]

/-- An event that is known is not pushed. -/
theorem push_of_known {l : EventLog} (step : InStep l) {e : Event} (known : e.uid ∈ l.uids) :
    l.push e = l := by
  rw [push, if_pos ((contains_iff step _).2 known)]

/-- A new event comes last, and the oldest go if there is no room. -/
theorem push_of_new {l : EventLog} (step : InStep l) {e : Event} (new : e.uid ∉ l.uids) :
    l.push e = { l with
      events := (evict l.limit (e.uid :: l.seen) (l.events ++ [e])).1
      seen := (evict l.limit (e.uid :: l.seen) (l.events ++ [e])).2 } := by
  rw [push, if_neg (fun known => new ((contains_iff step _).1 known))]

theorem push_limit (l : EventLog) (e : Event) : (l.push e).limit = l.limit := by
  unfold push
  split
  · rfl
  · rfl

/-- Pushing an event queues it. -/
theorem push_events {l : EventLog} (step : InStep l) (e : Event) :
    (l.push e).events = enqueue l.limit l.events e := by
  by_cases known : e.uid ∈ l.uids
  · rw [push_of_known step known, enqueue_of_held known]
  · rw [enqueue_of_new known, push_of_new step known]
    exact evict_fst _ _ _

/-- Pushing an event keeps the seen uids in step with the events. -/
theorem InStep.push {l : EventLog} (step : InStep l) (e : Event) : InStep (l.push e) := by
  by_cases known : e.uid ∈ l.uids
  · rw [push_of_known step known]
    exact step
  · have distinct : ((l.events ++ [e]).map (·.uid)).Nodup := by
      rw [List.map_append, List.map_singleton, ← List.concat_eq_append]
      exact List.Nodup.concat known step.distinct
    have held : ∀ uid, uid ∈ e.uid :: l.seen ↔ uid ∈ (l.events ++ [e]).map (·.uid) := by
      intro uid
      rw [List.mem_cons, step.known, uids, List.map_append, List.mem_append, List.map_singleton,
        List.mem_singleton, or_comm]
    rw [push_of_new step known]
    refine ⟨?_, mem_evict_snd distinct held, ?_⟩
    · rw [uids, evict_fst]
      exact distinct.sublist ((List.drop_sublist _ _).map _)
    · show (evict _ _ _).1.length ≤ l.limit
      rw [evict_fst, List.rtake, List.length_drop]
      omega

/-! ## A list of events -/

theorem inStep_cleared (l : EventLog) : InStep { l with events := [], seen := [] } :=
  ⟨List.nodup_nil, fun _ => Iff.rfl, Nat.zero_le _⟩

theorem inStep_empty (limit : Nat) : InStep (empty limit) := inStep_cleared (empty limit)

/-- Pushing one event after the other keeps the uids in step and fills the queue. -/
theorem foldl_push {l : EventLog} (step : InStep l) (events : List Event) :
    InStep (events.foldl push l) ∧ (events.foldl push l).limit = l.limit ∧
      (events.foldl push l).events = events.foldl (enqueue l.limit) l.events := by
  induction events generalizing l with
  | nil => exact ⟨step, rfl, rfl⟩
  | cons e rest ih =>
    obtain ⟨later, limit, filled⟩ := ih (step.push e)
    rw [push_limit] at limit filled
    rw [push_events step] at filled
    exact ⟨later, limit, filled⟩

/-- A set of events is queued one by one from nothing. -/
theorem setEvents_events (l : EventLog) (events : List Event) :
    (l.setEvents events).events = events.foldl (enqueue l.limit) [] :=
  (foldl_push (inStep_cleared l) events).2.2

/-- The panel and the hints are not touched by what is pushed. -/
theorem foldl_push_hints (l : EventLog) (events : List Event) :
    (events.foldl push l).panelOpen = l.panelOpen ∧ (events.foldl push l).hasNew = l.hasNew ∧
      (events.foldl push l).hasNewWarnings = l.hasNewWarnings := by
  induction events generalizing l with
  | nil => exact ⟨rfl, rfl, rfl⟩
  | cons e rest ih =>
    have here : (l.push e).panelOpen = l.panelOpen ∧ (l.push e).hasNew = l.hasNew ∧
        (l.push e).hasNewWarnings = l.hasNewWarnings := by
      unfold push
      split
      · exact ⟨rfl, rfl, rfl⟩
      · exact ⟨rfl, rfl, rfl⟩
    rw [List.foldl_cons, (ih _).1, (ih _).2.1, (ih _).2.2]
    exact here

/-! ## One operation -/

/-- The hints of an arrival, which are raised before it is pushed. -/
def hinted (l : EventLog) (e : Event) : EventLog :=
  if l.panelOpen then l
  else { l with hasNew := true, hasNewWarnings := l.hasNewWarnings || e.isWarning }

theorem add_eq (l : EventLog) (e : Event) :
    l.add e = if l.contains e.uid then (l, false) else ((l.hinted e).push e, true) := rfl

/-- A hint touches neither events nor seen uids. -/
theorem hinted_queue (l : EventLog) (e : Event) :
    (l.hinted e).events = l.events ∧ (l.hinted e).seen = l.seen ∧ (l.hinted e).limit = l.limit := by
  unfold hinted
  split
  · exact ⟨rfl, rfl, rfl⟩
  · exact ⟨rfl, rfl, rfl⟩

theorem InStep.hinted {l : EventLog} (step : InStep l) (e : Event) : InStep (l.hinted e) := by
  obtain ⟨events, seen, limit⟩ := l.hinted_queue e
  refine ⟨?_, fun uid => ?_, ?_⟩
  · rw [uids, events]
    exact step.distinct
  · rw [uids, events, seen]
    exact step.known uid
  · rw [events, limit]
    exact step.bounded

/-- The hint of an event fits, warning or not. -/
theorem HintsFit.hinted {l : EventLog} (fit : HintsFit l) (e : Event) : HintsFit (l.hinted e) := by
  unfold EventLog.hinted
  split
  · exact fit
  · next closed => exact ⟨fun _ => rfl, fun opened => absurd opened closed⟩

/-- An event that is known is not added, and gives no hint. -/
theorem add_of_known {l : EventLog} (step : InStep l) {e : Event} (known : e.uid ∈ l.uids) :
    l.add e = (l, false) := by
  rw [add_eq, if_pos ((contains_iff step _).2 known)]

/-- A new event gives its hint and is pushed. -/
theorem add_of_new {l : EventLog} (step : InStep l) {e : Event} (new : e.uid ∉ l.uids) :
    l.add e = ((l.hinted e).push e, true) := by
  rw [add_eq, if_neg (fun known => new ((contains_iff step _).1 known))]

/-- Adding a new event queues it. -/
theorem add_events_of_new {l : EventLog} (step : InStep l) {e : Event} (new : e.uid ∉ l.uids) :
    (l.add e).1.events = (l.events ++ [e]).rtake l.limit := by
  obtain ⟨events, -, limit⟩ := l.hinted_queue e
  rw [add_of_new step new, push_events (step.hinted e), events, limit, enqueue_of_new new]

/-- Panel and hints are no matter of the uids. -/
theorem InStep.panel {l : EventLog} (step : InStep l) (panelOpen hasNew hasNewWarnings : Bool) :
    InStep { l with panelOpen, hasNew, hasNewWarnings } :=
  ⟨step.distinct, step.known, step.bounded⟩

/-- Where there are no hints they fit. -/
theorem hintsFit_quiet {l : EventLog} (new : l.hasNew = false) (warned : l.hasNewWarnings = false) :
    HintsFit l :=
  ⟨fun warning => absurd (warned.symm.trans warning) (by decide), fun _ => ⟨new, warned⟩⟩

/-- What holds of a list at every stage of its history. -/
structure Sound (capacity : Nat) (l : EventLog) : Prop where
  limit : l.limit = capacity
  step : InStep l
  hints : HintsFit l

/-- An empty log is sound, whatever its limit. -/
theorem sound_empty (limit : Nat) : Sound (max limit 1) (empty limit) :=
  ⟨rfl, inStep_empty limit, fun warned => warned, fun _ => ⟨rfl, rfl⟩⟩

/-- An operation does to the events what it does to the queue, and keeps the list sound. -/
theorem perform_sound {capacity : Nat} {l : EventLog} (sound : Sound capacity l) (o : Operation) :
    Sound capacity (l.perform o) ∧ (l.perform o).events = o.onQueue capacity l.events := by
  obtain ⟨rfl, step, hints⟩ := sound
  cases o with
  | add e =>
    rw [perform, Operation.onQueue]
    by_cases known : e.uid ∈ l.uids
    · rw [add_of_known step known, enqueue_of_held known]
      exact ⟨⟨rfl, step, hints⟩, rfl⟩
    · refine ⟨?_, by rw [add_events_of_new step known, enqueue_of_new known]⟩
      obtain ⟨opened, new, warned⟩ := foldl_push_hints (l.hinted e) [e]
      have fit := hints.hinted e
      rw [add_of_new step known]
      refine ⟨(push_limit _ e).trans (l.hinted_queue e).2.2, (step.hinted e).push e, ⟨?_, ?_⟩⟩
      · exact fun warning => new.trans (fit.warned (warned.symm.trans warning))
      · intro panel
        obtain ⟨noNew, noWarning⟩ := fit.opened (opened.symm.trans panel)
        exact ⟨new.trans noNew, warned.trans noWarning⟩
  | setEvents events =>
    obtain ⟨later, limit, -⟩ := foldl_push (inStep_cleared l) events
    obtain ⟨opened, new, warned⟩ := foldl_push_hints { l with events := [], seen := [] } events
    refine ⟨⟨limit, later, ⟨?_, ?_⟩⟩, setEvents_events l events⟩
    · exact fun warning => new.trans (hints.warned (warned.symm.trans warning))
    · intro panel
      obtain ⟨noNew, noWarning⟩ := hints.opened (opened.symm.trans panel)
      exact ⟨new.trans noNew, warned.trans noWarning⟩
  | togglePanel =>
    rw [perform, togglePanel]
    split
    · exact ⟨⟨rfl, step.panel _ _ _, ⟨hints.warned, fun opened => absurd opened Bool.false_ne_true⟩⟩, rfl⟩
    · exact ⟨⟨rfl, step.panel _ _ _, hintsFit_quiet rfl rfl⟩, rfl⟩
  | clearHints => exact ⟨⟨rfl, step.panel _ _ _, hintsFit_quiet rfl rfl⟩, rfl⟩

/-- Along a history the events are those of the queue. -/
theorem run_sound {capacity : Nat} {l : EventLog} (sound : Sound capacity l)
    (history : List Operation) :
    Sound capacity (l.run history) ∧
      (l.run history).events = history.foldl (Operation.onQueue capacity) l.events := by
  induction history generalizing l with
  | nil => exact ⟨sound, rfl⟩
  | cons o rest ih =>
    obtain ⟨next, events⟩ := perform_sound sound o
    obtain ⟨later, filled⟩ := ih next
    rw [events] at filled
    exact ⟨later, filled⟩

/-- Along every history the list is a queue of the given capacity, of at least one event, and its
known uids are those of the queue. A further event is refused, and changes nothing, exactly if the
queue holds its uid; else it stands at the end of what is kept. Replaced events are those that an
empty queue takes up one by one. A hint of a warning never stands alone, and none stands while the
panel is open. -/
theorem run_eq_queue (capacity : Nat) (history : List Operation) :
    let l := (empty capacity).run history
    l.events = history.foldl (Operation.onQueue (max capacity 1)) [] ∧
      l.uids.Nodup ∧ (∀ uid, uid ∈ l.seen ↔ uid ∈ l.uids) ∧ l.events.length ≤ max capacity 1 ∧
      (∀ e, (l.add e = (l, false) ↔ e.uid ∈ l.uids) ∧
        (e.uid ∉ l.uids → (l.add e).2 = true ∧
          (l.add e).1.events = (l.events ++ [e]).rtake (max capacity 1))) ∧
      (∀ events, (l.setEvents events).events = events.foldl (enqueue (max capacity 1)) []) ∧
      (l.hasNewWarnings = true → l.hasNew = true) ∧
      (l.panelOpen = true → l.hasNew = false ∧ l.hasNewWarnings = false) := by
  intro l
  obtain ⟨⟨limit, step, hints⟩, queue⟩ := run_sound (sound_empty capacity) history
  refine ⟨queue, step.distinct, step.known, limit ▸ step.bounded, fun e => ⟨⟨?_, ?_⟩, ?_⟩,
    fun events => limit ▸ setEvents_events l events, hints.warned, hints.opened⟩
  · intro refused
    by_contra new
    rw [add_of_new step new] at refused
    exact nomatch congrArg Prod.snd refused
  · exact fun known => add_of_known step known
  · intro new
    exact ⟨congrArg Prod.snd (add_of_new step new), limit ▸ add_events_of_new step new⟩

/-- An event of which nothing matters but the uid and the type. -/
def arrival (uid : String) (type : EventType) : Event :=
  { uid, type, kind := "", name := "", ns := "", reason := "", message := "", source := ""
    firstObserved := .epoch, lastObserved := .epoch, count := 1, resourceUid := "" }

/-- Three arrivals, one more than there is room for. -/
def crowded : EventLog :=
  (empty 2).run [.add (arrival "a" .normal), .add (arrival "b" .warning), .add (arrival "c" .normal)]

/-- The event that has given way may come back. -/
theorem run_eq_queue_returning :
    "a" ∉ crowded.uids ∧ crowded.hasNewWarnings = true ∧ crowded.hasNew = true ∧
      (crowded.add (arrival "a" .normal)).2 = true ∧
      (crowded.add (arrival "a" .normal)).1.events =
        [arrival "c" .normal, arrival "a" .normal] := by
  obtain ⟨-, -, -, -, taken, -, hints, -⟩ := run_eq_queue 2
    [.add (arrival "a" .normal), .add (arrival "b" .warning), .add (arrival "c" .normal)]
  have new : "a" ∉ crowded.uids := by decide
  have warned : crowded.hasNewWarnings = true := by decide
  obtain ⟨added, kept⟩ := (taken (arrival "a" .normal)).2 new
  exact ⟨new, warned, hints warned, added, kept⟩

end ResourceTree.EventLog
