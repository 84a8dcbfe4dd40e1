import ResourceTree.Graph.Run
import ResourceTree.Proofs.Graph.Projection
import ResourceTree.Proofs.History
import ResourceTree.Proofs.Tree.Listings

/-!
# Accepted layouts are up to date

Two counters tell whether a layout that has been finished is still wanted. The generation grows
exactly with the actions that supersede a ticket, and the version grows unless at most log lines
have changed, which no graph shows. So a layout is accepted exactly while neither has moved since
its ticket was issued, and it is then the layout of the tree as it is.
-/

namespace ResourceTree
set_option autoImplicit false

namespace Store

/-- A later store: its version is no lower, and as long as it is the same the trees agree but for
log lines. -/
structure Later (s s' : Store) : Prop where
  version : s.version ≤ s'.version
  same : s'.version = s.version → s'.tree.eraseLogs = s.tree.eraseLogs

theorem Later.refl (s : Store) : s.Later s := ⟨Nat.le_refl _, fun _ => rfl⟩

theorem Later.trans {s s' s'' : Store} (h : s.Later s') (h' : s'.Later s'') : s.Later s'' := by
  refine ⟨Nat.le_trans h.version h'.version, fun still => ?_⟩
  have below := h.version
  have above := h'.version
  rw [h'.same (by omega), h.same (by omega)]

/-- A store that keeps its listings right only moves on. -/
theorem Keeps.later {s s' : Store} (keeps : s.Keeps s') : s.Later s' := by
  cases keeps with
  | changed _ version => exact ⟨by omega, fun still => by omega⟩
  | unchanged _ version _ tree => exact ⟨by omega, fun _ => tree⟩

/-- A store only moves on, whatever is done to it. -/
theorem later_perform (s : Store) (o : Operation) : s.Later (s.perform o) := by
  cases o with
  | replaceTree t => exact (keeps_replaceTree s t).later
  | delta d => exact (keeps_apply s d).later
  | setFlags uid reconciling suspended => exact (keeps_setFlags s uid _ _).later
  | appendLog uid line => exact (keeps_appendLog s uid line).later
  | select uid => exact (keeps_select s uid).later
  | clearSelection => exact ⟨Nat.le_refl _, fun _ => rfl⟩
  | derivedViews =>
    rw [perform, derivedViews]
    split
    · exact .refl s
    · exact ⟨Nat.le_refl _, fun _ => rfl⟩

end Store

namespace GraphView

variable {α : Type} [Coordinate α]

/-! ## What an action does to the counters -/

/-- What is issued for a uid that leads to a node: a ticket of the next generation for that node,
and the layout of its graph. -/
theorem spawn?_eq_some {v : GraphView α} {uid : String} {start : Tree}
    (found : v.store.tree.resolve? uid = some start) :
    v.scheduler.spawn? v.store uid = some
      ({ v.scheduler with generation := v.scheduler.generation + 1 },
        { generation := v.scheduler.generation + 1, root := start.uid, version := v.store.version },
        Layout.ofProjection v.scheduler.options
          (Projection.ofTree v.scheduler.excluded start)) := by
  rw [Scheduler.spawn?, Projection.ofUid?, found, Option.map_some, Option.map_some,
    Scheduler.request, Projection.ofTree_root]

theorem spawn?_eq_none {v : GraphView α} {uid : String}
    (absent : v.store.tree.resolve? uid = none) : v.scheduler.spawn? v.store uid = none := by
  rw [Scheduler.spawn?, Projection.ofUid?, absent, Option.map_none, Option.map_none]

theorem perform_store (v : GraphView α) (a : Action α) : v.store.Later (v.perform a).store := by
  cases a with
  | operation o => exact v.store.later_perform o
  | spawn uid =>
    rw [perform]
    split <;> exact .refl _
  | cancel => exact .refl _
  | accept t l => exact .refl _

/-- An action moves the generation on exactly if it supersedes earlier tickets. -/
theorem perform_scheduler (v : GraphView α) (a : Action α) :
    (v.perform a).scheduler =
      { v.scheduler with
        generation := v.scheduler.generation + if v.supersedes a = true then 1 else 0 } := by
  cases a with
  | operation o => rfl
  | spawn uid =>
    rw [perform, supersedes, issue?]
    cases found : v.store.tree.resolve? uid with
    | some start => rw [spawn?_eq_some found]; rfl
    | none => rw [spawn?_eq_none found]; rfl
  | cancel => rfl
  | accept t l => rfl

/-- An action counts a generation if it supersedes what was asked for before. -/
theorem perform_generation (v : GraphView α) (a : Action α) :
    (v.perform a).scheduler.generation =
      v.scheduler.generation + if v.supersedes a = true then 1 else 0 :=
  congrArg Scheduler.generation (perform_scheduler v a)

theorem generation_of_issue? {v : GraphView α} {a : Action α} {t : Ticket} {l : Layout α}
    (h : v.issue? a = some (t, l)) : t.generation = v.scheduler.generation + 1 := by
  cases a with
  | spawn uid =>
    rw [issue?] at h
    cases found : v.store.tree.resolve? uid with
    | some start =>
      rw [spawn?_eq_some found] at h
      cases h
      rfl
    | none =>
      rw [spawn?_eq_none found] at h
      cases h
  | operation o => cases h
  | cancel => cases h
  | accept t l => cases h

/-! ## Runs -/

theorem run_append (v : GraphView α) (history more : List (Action α)) :
    v.run (history ++ more) = (v.run history).run more :=
  List.foldl_append

/-- In a run of the view its store only moves on. -/
theorem run_store (v : GraphView α) (history : List (Action α)) :
    v.store.Later (v.run history).store := by
  induction history generalizing v with
  | nil => exact .refl _
  | cons a rest ih => exact (perform_store v a).trans (ih (v.perform a))

/-- A run of the view changes no more of the scheduler than its generation. -/
theorem run_settings (v : GraphView α) (history : List (Action α)) :
    ∃ generation, (v.run history).scheduler = { v.scheduler with generation } := by
  induction history generalizing v with
  | nil => exact ⟨v.scheduler.generation, rfl⟩
  | cons a rest ih =>
    obtain ⟨generation, scheduler⟩ := ih (v.perform a)
    refine ⟨generation, ?_⟩
    rw [run, List.foldl_cons, ← run, scheduler, perform_scheduler]

/-- The generation never goes back, and it stays where it is exactly as long as no action supersedes
earlier tickets. -/
theorem run_generation (v : GraphView α) (history : List (Action α)) :
    v.scheduler.generation ≤ (v.run history).scheduler.generation ∧
      ((v.run history).scheduler.generation = v.scheduler.generation ↔
        Along perform (fun w a => w.supersedes a = false) v history) := by
  induction history generalizing v with
  | nil => exact ⟨Nat.le_refl _, iff_of_true rfl trivial⟩
  | cons a rest ih =>
    obtain ⟨grows, still⟩ := ih (v.perform a)
    rw [perform_generation] at grows still
    rw [run, List.foldl_cons, ← run, Along]
    cases here : v.supersedes a with
    | true =>
      rw [here, if_pos rfl] at grows
      exact ⟨by omega, iff_of_false (by omega) fun both => by cases both.1⟩
    | false =>
      rw [here, if_neg Bool.false_ne_true, Nat.add_zero] at grows still
      exact ⟨grows, still.trans (and_iff_right rfl).symm⟩

/-- The tickets of a run have generations between that before the run and that after it. -/
theorem generation_of_issued {v : GraphView α} {history : List (Action α)}
    {entry : Ticket × Layout α} (h : entry ∈ v.issued history) :
    v.scheduler.generation < entry.1.generation ∧
      entry.1.generation ≤ (v.run history).scheduler.generation := by
  induction history generalizing v with
  | nil => cases h
  | cons a rest ih =>
    have step := perform_generation v a
    rw [run, List.foldl_cons, ← run]
    rcases List.mem_append.1 h with here | later
    · have issue : v.issue? a = some entry := Option.mem_toList.1 here
      have next := generation_of_issue? issue
      have superseded : v.supersedes a = true := by
        cases a with
        | spawn uid => rw [supersedes, issue]; rfl
        | operation o => cases issue
        | cancel => rfl
        | accept t l => cases issue
      rw [superseded, if_pos rfl] at step
      have grows := (run_generation (v.perform a) rest).1
      exact ⟨by omega, by omega⟩
    · have bounds := ih later
      exact ⟨by omega, bounds.2⟩

/-! ## Acceptance -/

theorem issue?_spawn_eq_some {v : GraphView α} {uid : String} {t : Ticket} {l : Layout α}
    (h : v.issue? (.spawn uid) = some (t, l)) :
    ∃ start, v.store.tree.resolve? uid = some start ∧
      t = { generation := v.scheduler.generation + 1, root := start.uid,
            version := v.store.version } ∧
      l = Layout.ofProjection v.scheduler.options
        (Projection.ofTree v.scheduler.excluded start) := by
  rw [issue?] at h
  cases found : v.store.tree.resolve? uid with
  | some start =>
    rw [spawn?_eq_some found] at h
    cases h
    exact ⟨start, rfl, rfl, rfl⟩
  | none =>
    rw [spawn?_eq_none found] at h
    cases h

/-- A request is refused exactly if its uid is unknown, and then nothing changes. -/
theorem issue?_spawn_eq_none_iff (v : GraphView α) (uid : String) :
    (v.issue? (.spawn uid) = none ↔ uid ≠ "" ∧ uid ∉ v.store.tree.uids) ∧
      (v.issue? (.spawn uid) = none → v.perform (.spawn uid) = v) := by
  rw [← Tree.resolve?_eq_none_iff, issue?, perform]
  cases found : v.store.tree.resolve? uid with
  | some start =>
    rw [spawn?_eq_some found]
    exact ⟨iff_of_false (Option.some_ne_none _) (Option.some_ne_none _), fun none => by cases none⟩
  | none =>
    rw [spawn?_eq_none found]
    exact ⟨iff_of_true rfl rfl, fun _ => rfl⟩

section Issued

variable {v : GraphView α} {uid : String} {t : Ticket} {l : Layout α}
  (issue : v.issue? (.spawn uid) = some (t, l)) (after : List (Action α))

include issue

theorem perform_spawn_generation :
    (v.perform (.spawn uid)).scheduler.generation = t.generation := by
  rw [perform_generation, supersedes, issue, generation_of_issue? issue]
  rfl

theorem perform_spawn_store : (v.perform (.spawn uid)).store = v.store := by
  obtain ⟨start, found, -, -⟩ := issue?_spawn_eq_some issue
  rw [perform, spawn?_eq_some found]

/-- A ticket is current exactly while neither counter has moved. -/
theorem isCurrent_iff :
    ((v.perform (.spawn uid)).run after).scheduler.isCurrent t
        ((v.perform (.spawn uid)).run after).store.version = true ↔
      Along perform (fun w a => w.supersedes a = false) (v.perform (.spawn uid)) after ∧
        ((v.perform (.spawn uid)).run after).store.version =
          (v.perform (.spawn uid)).store.version := by
  have version : t.version = v.store.version := by
    obtain ⟨start, -, rfl, -⟩ := issue?_spawn_eq_some issue
    rfl
  rw [← (run_generation _ after).2, Scheduler.isCurrent, Bool.and_eq_true, decide_eq_true_eq,
    decide_eq_true_eq, perform_spawn_generation issue, perform_spawn_store issue, version]
  exact and_congr eq_comm eq_comm

/-- As long as the version has not moved, the layout of a ticket is that of the tree as it is. -/
theorem layoutNow?_of_version
    (same : ((v.perform (.spawn uid)).run after).store.version =
      (v.perform (.spawn uid)).store.version) :
    ((v.perform (.spawn uid)).run after).layoutNow? t.root = some l := by
  obtain ⟨start, found, rfl, rfl⟩ := issue?_spawn_eq_some issue
  obtain ⟨_, scheduler⟩ := run_settings (v.perform (.spawn uid)) after
  have trees := (run_store (v.perform (.spawn uid)) after).same same
  rw [perform_spawn_store issue] at trees
  rw [layoutNow?, Scheduler.layoutNow?, scheduler, perform_scheduler]
  show (Projection.ofUid? v.scheduler.excluded start.uid _).map _ = _
  rw [Projection.ofUid?_congr _ trees, Projection.ofUid?, Tree.resolve?_uid found]
  rfl

end Issued

/-- As long as no action supersedes a ticket, no other ticket of the run is current, since each has a
generation of its own. -/
theorem isCurrent_of_other {v : GraphView α} {before after : List (Action α)} {uid : String}
    {t : Ticket} {l : Layout α} (issue : (v.run before).issue? (.spawn uid) = some (t, l))
    (undisturbed : Along perform (fun w a => w.supersedes a = false)
      ((v.run before).perform (.spawn uid)) after) {other : Ticket × Layout α}
    (member : other ∈ v.issued before ++ ((v.run before).perform (.spawn uid)).issued after)
    (version : Nat) :
    (((v.run before).perform (.spawn uid)).run after).scheduler.isCurrent other.1 version =
      false := by
  have own := generation_of_issue? issue
  have atRequest := perform_spawn_generation issue
  have still := (run_generation ((v.run before).perform (.spawn uid)) after).2.2 undisturbed
  have another : other.1.generation ≠
      (((v.run before).perform (.spawn uid)).run after).scheduler.generation := by
    rcases List.mem_append.1 member with earlier | newer
    · have bound := (generation_of_issued earlier).2
      omega
    · have bound := (generation_of_issued newer).1
      omega
  rw [Scheduler.isCurrent, decide_eq_false another, Bool.false_and]

/-- A layout is accepted exactly while no action has superseded its ticket and the version is the
one that the ticket was issued at. What is accepted is the layout of the tree as it is now, and no
other ticket of the run is current. A request for an unknown uid changes nothing. -/
theorem accept_fresh {v : GraphView α} {before : List (Action α)} {uid : String}
    {t : Ticket} {l : Layout α} (issue : (v.run before).issue? (.spawn uid) = some (t, l))
    (after : List (Action α)) :
    let requested := v.run (before ++ [.spawn uid])
    let now := v.run (before ++ Action.spawn uid :: after)
    (∀ kept, now.accept t l = some kept →
      kept = l ∧ now.layoutNow? t.root = some l ∧
        Along perform (fun w a => w.supersedes a = false) requested after ∧
        ∀ other ∈ v.issued before ++ requested.issued after, ∀ version,
          now.scheduler.isCurrent other.1 version = false) ∧
    (now.accept t l = some l ↔
      Along perform (fun w a => w.supersedes a = false) requested after ∧
        now.store.version = requested.store.version) ∧
    ∀ uid', (now.issue? (.spawn uid') = none ↔ uid' ≠ "" ∧ uid' ∉ now.store.tree.uids) ∧
      (now.issue? (.spawn uid') = none → now.perform (.spawn uid') = now) := by
  intro requested now
  have start : requested = (v.run before).perform (.spawn uid) := run_append v before [.spawn uid]
  have later : now = requested.run after := by
    rw [start]
    exact run_append v before (.spawn uid :: after)
  have current := isCurrent_iff issue after
  rw [← start, ← later] at current
  refine ⟨fun kept accepted => ?_, ?_, fun uid' => issue?_spawn_eq_none_iff now uid'⟩
  · rw [accept, Scheduler.accept] at accepted
    split at accepted
    · next here =>
      cases accepted
      obtain ⟨undisturbed, version⟩ := current.1 here
      refine ⟨rfl, ?_, undisturbed, fun other member version => ?_⟩
      · have fresh := layoutNow?_of_version issue after
        rw [← start, ← later] at fresh
        exact fresh version
      · rw [start] at undisturbed member
        have outdated := isCurrent_of_other issue undisturbed member version
        rwa [← start, ← later] at outdated
    · cases accepted
  · rw [← current, accept, Scheduler.accept]
    split
    · next here => exact iff_of_true rfl here
    · next stale => exact iff_of_false (fun none => by cases none) stale

/-- Exact coordinates. -/
instance : Coordinate Rat where
  ofNat n := n
  add := (· + ·)
  mul := (· * ·)
  half x := x / 2

/-- A root with one resource below it. -/
def pair : Tree :=
  .node { Resource.placeholder with uid := "root", kind := "Kustomization" }
    [.node { Resource.placeholder with uid := "app", parentId := some "root" } []]

/-- A graph view of the pair, in boxes of ten by ten. -/
def pairView : GraphView Rat :=
  { store := (Store.empty "flux-system" 10).replaceTree pair
    scheduler := .idle ["Pod"]
      { direction := .right, nodeWidth := 10, nodeHeight := 10, nodeSpacing := 2, layerSpacing := 5 } }

/-- A log line, a selection, and a request for a uid that is unknown. -/
def undisturbing : List (Action Rat) :=
  [.operation (.appendLog "app" { timestamp := .epoch, container := "", text := "up" }),
    .operation (.select "app"), .spawn "nowhere"]

/-- The second of two tickets, with its layout. -/
def secondTicket : Ticket := { generation := 2, root := "root", version := 1 }

def pairLayout : Layout Rat :=
  Layout.ofProjection pairView.scheduler.options (Projection.ofTree ["Pod"] pair)

/-- A second layout that is accepted after actions that do not disturb it. -/
theorem accept_fresh_pair :
    let requested := pairView.run ([.spawn "app"] ++ [.spawn ""])
    let now := pairView.run ([.spawn "app"] ++ .spawn "" :: undisturbing)
    (pairView.run [.spawn "app"]).issue? (.spawn "") = some (secondTicket, pairLayout) ∧
      now.accept secondTicket pairLayout = some pairLayout ∧
      now.layoutNow? "root" = some pairLayout ∧
      ∀ other ∈ pairView.issued [.spawn "app"] ++ requested.issued undisturbing, ∀ version,
        now.scheduler.isCurrent other.1 version = false := by
  intro requested now
  have issue : (pairView.run [.spawn "app"]).issue? (.spawn "") = some (secondTicket, pairLayout) := by
    have found : (pairView.run [.spawn "app"]).store.tree.resolve? "" = some pair := rfl
    rw [issue?, spawn?_eq_some found]
    rfl
  have fresh := accept_fresh issue undisturbing
  have accepted : now.accept secondTicket pairLayout = some pairLayout := by
    refine fresh.2.1.2 ⟨?_, ?_⟩
    · exact ⟨rfl, rfl, rfl, trivial⟩
    · rfl
  obtain ⟨-, layout, -, others⟩ := fresh.1 pairLayout accepted
  exact ⟨issue, accepted, layout, others⟩

end GraphView

end ResourceTree
