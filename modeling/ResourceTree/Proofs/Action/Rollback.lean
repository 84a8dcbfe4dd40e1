import ResourceTree.Action.Run
import ResourceTree.Proofs.History
import ResourceTree.Proofs.Tree.Flags
import ResourceTree.Proofs.Tree.Steps

/-!
# Failed actions are taken back

While a request is under way, other things happen to the store. As long as none of them raises the
version, they bring at most log lines, and the flags of the action can be set back as if it had never
begun. Once one of them does, the version is past the one that the action remembers, for good, and its
failure leaves the tree alone.
-/

namespace ResourceTree.Store
set_option autoImplicit false

/-- An action begins at a node that can be reconciled and sets its flags; at any other uid it fails and
leaves the store as it is. -/
theorem startAction_cases (s : Store) (action : Action) (uid : String) :
    ((∀ t, s.tree.resolve? uid = some t → t.resource.isReconcilable = false) ∧
      ∃ e, s.startAction action uid = (s, .error e)) ∨
    ∃ t previous, s.tree.resolve? uid = some t ∧ t.resource.isReconcilable = true ∧
      s.tree.flux? t.uid = some previous ∧
      s.startAction action uid =
        (s.change (s.tree.modify t.uid
            (putFlux (previous.flagged action.reconciling action.suspended))),
          .ok { action, uid := t.uid, previous, version := s.version + 1 }) := by
  rw [startAction]
  cases resolved : s.tree.resolve? uid with
  | none => exact .inl ⟨fun _ found => (nomatch found), _, rfl⟩
  | some t =>
    have own := Tree.flux?_of_find? (Tree.find?_of_resolve? resolved)
    cases state : t.resource.metadata.flux? with
    | none =>
      have unmanaged : t.resource.isReconcilable = false := by
        rw [Resource.isReconcilable, state, Option.isSome_none]
      refine .inl ⟨fun u found => ?_, _, by simp only [unmanaged]; rfl⟩
      cases found
      exact unmanaged
    | some previous =>
      have managed : t.resource.isReconcilable = true := by
        rw [Resource.isReconcilable, state, Option.isSome_some]
      rw [state] at own
      exact .inr ⟨t, previous, rfl, managed, own, by simp only [managed, setFlags_of_flux? own]; rfl⟩

/-- An action begins exactly if there is such a node and it can be reconciled. -/
theorem startAction_eq_ok_iff (s : Store) (action : Action) (uid : String) :
    (∃ p, (s.startAction action uid).2 = .ok p) ↔
      ∃ t, s.tree.resolve? uid = some t ∧ t.resource.isReconcilable = true := by
  rcases s.startAction_cases action uid with ⟨unmanaged, e, eq⟩ | ⟨t, _, found, managed, -, eq⟩
  · rw [eq]
    constructor
    · rintro ⟨p, begun⟩
      cases begun
    · rintro ⟨t, found, managed⟩
      cases (unmanaged t found).symm.trans managed
  · rw [eq]
    exact ⟨fun _ => ⟨t, found, managed⟩, fun _ => ⟨_, rfl⟩⟩

/-- An action that does not begin changes nothing. -/
theorem startAction_eq_error {s : Store} {action : Action} {uid : String} {e : ActionError}
    (failed : (s.startAction action uid).2 = .error e) : (s.startAction action uid).1 = s := by
  rcases s.startAction_cases action uid with ⟨-, e, eq⟩ | ⟨t, previous, -, -, -, eq⟩
  · rw [eq]
  · rw [eq] at failed
    cases failed

/-! ## Log lines -/

/-- A log line goes to the first node with the uid, if there is one. -/
theorem perform_appendLog (s : Store) (uid : String) (line : LogLine) :
    s.perform (.appendLog uid line) =
      { s with tree := if s.tree.contains uid then
          s.tree.modify uid (prependLog s.logBuffer line) else s.tree } := by
  rw [perform, appendLog?]
  split
  · rfl
  · rfl

/-- A log line does not show in the tree without log lines. -/
theorem eraseLogs_perform_appendLog (s : Store) (uid : String) (line : LogLine) :
    (s.perform (.appendLog uid line)).tree.eraseLogs = s.tree.eraseLogs := by
  rw [perform_appendLog]
  cases s.tree.contains uid with
  | false => rfl
  | true => exact Tree.eraseLogs_modify_prependLog uid s.logBuffer line s.tree

theorem Activity.log?_eq_some {a : Activity} {o : Operation} (log : a.log? = some o) :
    ∃ uid line, o = .appendLog uid line := by
  rw [log?.eq_def] at log
  split at log
  · cases log
    exact ⟨_, _, rfl⟩
  all_goals cases log

/-- The log lines of activities do not show in the tree without log lines. -/
theorem eraseLogs_run_logsOf (s : Store) (after : List Activity) :
    (s.run (logsOf after)).tree.eraseLogs = s.tree.eraseLogs := by
  induction after generalizing s with
  | nil => rfl
  | cons a rest ih =>
    cases log : a.log? with
    | none =>
      rw [logsOf, List.filterMap_cons_none log]
      exact ih s
    | some o =>
      obtain ⟨uid, line, rfl⟩ := Activity.log?_eq_some log
      rw [logsOf, List.filterMap_cons_some log, run, List.foldl_cons]
      exact (ih _).trans (s.eraseLogs_perform_appendLog uid line)

/-! ## What an activity can do -/

/-- An activity raises the version. -/
def Raises (s : Store) (a : Activity) : Prop := s.version < (s.act a).version

instance (s : Store) (a : Activity) : Decidable (s.Raises a) := Nat.decLt _ _

/-- No activity raises the version. -/
def Quiet (s : Store) (after : List Activity) : Prop :=
  Along act (fun s a => ¬ s.Raises a) s after

instance (s : Store) (after : List Activity) : Decidable (s.Quiet after) :=
  inferInstanceAs (Decidable (Along act (fun s a => ¬ s.Raises a) s after))

/-- What an activity can come to: it raises the version, or it brings at most a log line. -/
inductive Passes (s : Store) (a : Activity) : Prop where
  | raised (version : (s.act a).version = s.version + 1)
  | logged (uid : String) (line : LogLine) (log : a = .operation (.appendLog uid line))
  | kept (none : a.log? = none) (version : (s.act a).version = s.version)
      (tree : (s.act a).tree = s.tree) (buffer : (s.act a).logBuffer = s.logBuffer)

/-- An activity that gives the tree a new version or does nothing passes in one of these ways. -/
theorem Passes.of_change {s : Store} {a : Activity} (none : a.log? = none)
    (change : s.act a = s ∨ ∃ tree, s.act a = s.change tree) : s.Passes a := by
  rcases change with same | ⟨tree, changed⟩
  · exact .kept none (by rw [same]) (by rw [same]) (by rw [same])
  · exact .raised (by rw [changed]; rfl)

/-- Every operation passes in one of the three ways. -/
theorem passes_operation (s : Store) (o : Operation) : s.Passes (.operation o) := by
  cases o with
  | replaceTree t =>
    obtain ⟨selected, eq⟩ := dropStaleSelection_eq (s.change t)
    refine .raised ?_
    rw [act, perform, replaceTree, eq]
    rfl
  | delta d =>
    rcases s.apply_cases d with ⟨-, tree, selected, eq⟩ | ⟨-, eq⟩
    · exact .raised (by rw [act, perform, eq])
    · exact .of_change rfl (.inl eq)
  | setFlags uid reconciling suspended => exact .of_change rfl (setFlags_store s uid _ _)
  | appendLog uid line => exact .logged uid line rfl
  | select uid =>
    cases resolved : s.tree.resolve? uid with
    | none => exact .of_change rfl (.inl (by rw [act, perform, select?, resolved]; rfl))
    | some t =>
      have selected : s.act (.operation (.select uid)) = { s with selected := some t.uid } := by
        rw [act, perform, select?, resolved]
        rfl
      exact .kept rfl (by rw [selected]) (by rw [selected]) (by rw [selected])
  | clearSelection => exact .kept rfl rfl rfl rfl
  | derivedViews =>
    obtain ⟨views, listed⟩ : ∃ views, s.act (.operation .derivedViews) = { s with views } := by
      rw [act, perform, derivedViews]
      split
      · exact ⟨s.views, rfl⟩
      · exact ⟨_, rfl⟩
    exact .kept rfl (by rw [listed]) (by rw [listed]) (by rw [listed])

/-- So does every activity, the beginning and the end of actions among them. -/
theorem passes (s : Store) (a : Activity) : s.Passes a := by
  cases a with
  | operation o => exact s.passes_operation o
  | begin action uid =>
    refine .of_change rfl ?_
    rw [act]
    rcases s.startAction_cases action uid with ⟨-, e, eq⟩ | ⟨t, previous, -, -, -, eq⟩
    · exact .inl (by rw [eq])
    · exact .inr ⟨_, by rw [eq]⟩
  | settle p failure =>
    refine .of_change rfl ?_
    cases failure with
    | none => exact .inl rfl
    | some e =>
      rw [act, settleAction, rollBack]
      split
      · exact setFlags_store s p.uid _ _
      · exact .inl rfl

/-- No activity lowers the version. -/
theorem version_le_act (s : Store) (a : Activity) : s.version ≤ (s.act a).version := by
  cases s.passes a with
  | raised version => omega
  | logged uid line log =>
    have same : (s.act a).version = s.version := by rw [log, act, perform_appendLog]
    omega
  | kept _ version _ _ => omega

/-- Nor do any activities together. -/
theorem version_le_enact (s : Store) (after : List Activity) :
    s.version ≤ (s.enact after).version := by
  induction after generalizing s with
  | nil => exact Nat.le_refl _
  | cons a rest ih => exact Nat.le_trans (s.version_le_act a) (ih (s.act a))

/-- The version shows whether it has been raised: it never comes down again. -/
theorem quiet_iff (s : Store) (after : List Activity) :
    s.Quiet after ↔ (s.enact after).version = s.version := by
  induction after generalizing s with
  | nil => exact ⟨fun _ => rfl, fun _ => trivial⟩
  | cons a rest ih =>
    have first := s.version_le_act a
    have later := (s.act a).version_le_enact rest
    have step : s.Quiet (a :: rest) ↔ ¬ s.Raises a ∧ (s.act a).Quiet rest := Iff.rfl
    have next : s.enact (a :: rest) = (s.act a).enact rest := rfl
    rw [step, next, ih, Raises]
    omega

/-! ## Setting back -/

/-- A store in which a node has a reconcile state, and whose tree with the previous state in its place
is that of another store. -/
structure SetsBack (uid : String) (previous flux : Flux) (base s : Store) : Prop where
  own : s.tree.flux? uid = some flux
  back : s.tree.modify uid (putFlux previous) = base.tree
  buffer : base.logBuffer = s.logBuffer

section SetsBack

variable {uid : String} {previous flux : Flux} {base s : Store}
  (back : SetsBack uid previous flux base s)

include back

/-- A log line comes to both trees, so that the flags of the one can still be set back. -/
theorem SetsBack.appendLog (uid' : String) (line : LogLine) :
    SetsBack uid previous flux (base.perform (.appendLog uid' line))
      (s.perform (.appendLog uid' line)) := by
  have known : base.tree.contains uid' = s.tree.contains uid' := by
    rw [← back.back, Tree.contains_modify_putFlux]
  rw [perform_appendLog, perform_appendLog, known, back.buffer]
  cases s.tree.contains uid' with
  | false => exact ⟨back.own, back.back, rfl⟩
  | true =>
    refine ⟨?_, ?_, rfl⟩
    · rw [← back.own]
      exact Tree.flux?_modify_prependLog uid uid' s.logBuffer line s.tree
    · show (s.tree.modify uid' _).modify uid _ = base.tree.modify uid' _
      rw [Tree.modify_prependLog_putFlux, back.back]

/-- An activity that does not raise the version brings at most a log line. -/
theorem SetsBack.act {a : Activity} (quiet : ¬ s.Raises a) :
    SetsBack uid previous flux (base.run (logsOf [a])) (s.act a) := by
  cases s.passes a with
  | raised version =>
    rw [Raises] at quiet
    omega
  | logged uid' line log =>
    rw [log]
    exact back.appendLog uid' line
  | kept none _ tree buffer =>
    have logs : logsOf [a] = [] := List.filterMap_cons_none none
    rw [logs]
    exact ⟨tree ▸ back.own, tree ▸ back.back, buffer ▸ back.buffer⟩

/-- Activities that do not raise the version bring log lines alone. -/
theorem SetsBack.enact {after : List Activity} (quiet : s.Quiet after) :
    SetsBack uid previous flux (base.run (logsOf after)) (s.enact after) := by
  induction after generalizing base s with
  | nil => exact back
  | cons a rest ih =>
    have later := ih (back.act quiet.1) quiet.2
    have logs : logsOf (a :: rest) = logsOf [a] ++ logsOf rest :=
      List.filterMap_append (l := [a])
    rw [logs, run, List.foldl_append]
    exact later

end SetsBack

/-- The action that has begun may be set back, and holds the version that it has come to. -/
theorem setsBack_startAction {origin : Store} {action : Action} {uid : String} {p : PendingAction}
    (begun : (origin.startAction action uid).2 = .ok p) :
    (origin.startAction action uid).1.version = p.version ∧
      SetsBack p.uid p.previous (p.previous.flagged action.reconciling action.suspended) origin
        (origin.startAction action uid).1 := by
  rcases origin.startAction_cases action uid with ⟨-, e, eq⟩ | ⟨t, previous, -, -, own, eq⟩
  · rw [eq] at begun
    cases begun
  · rw [eq] at begun ⊢
    cases begun
    refine ⟨rfl, Tree.flux?_modify_putFlux _ (by rw [own]; rfl), ?_, rfl⟩
    show (origin.tree.modify t.uid _).modify t.uid _ = origin.tree
    rw [Tree.modify_putFlux_putFlux, Tree.modify_putFlux_eq_self own]

/-- A failure sets the flags back if no activity has raised the version since the action began. -/
theorem SetsBack.settleAction {p : PendingAction} {reconciling suspended : Option Bool}
    {base now : Store}
    (back : SetsBack p.uid p.previous (p.previous.flagged reconciling suspended) base now)
    (version : now.version = p.version) (e : ActionError) :
    (now.settleAction p (some e)).1.tree = base.tree := by
  rw [Store.settleAction, rollBack, if_pos version, setFlags_of_flux? back.own, Flux.flagged_back]
  exact back.back

/-- An action begins exactly at a node that can be reconciled, and one that does not begin leaves the
store as it is. One that has begun has set its flags and can be settled after whatever has happened in
between: success changes nothing, and a failure is passed on. As long as the version has not been
raised, a failure leaves the tree from before the action with the log lines that have come since, and
once it has been raised, it leaves the store as it finds it. -/
theorem settleAction_enact (origin : Store) (action : Action) (uid : String) :
    ((∃ p, (origin.startAction action uid).2 = .ok p) ↔
      ∃ t, origin.tree.resolve? uid = some t ∧ t.resource.isReconcilable = true) ∧
    (∀ e, (origin.startAction action uid).2 = .error e →
      (origin.startAction action uid).1 = origin) ∧
    ∀ p, (origin.startAction action uid).2 = .ok p →
      let started := (origin.startAction action uid).1
      started.tree.flux? p.uid =
          some (p.previous.flagged action.reconciling action.suspended) ∧
        ∀ after : List Activity,
          let now := started.enact after
          now.settleAction p none = (now, none) ∧
            ∀ e, (now.settleAction p (some e)).2 = some e ∧
              (started.Quiet after →
                (now.settleAction p (some e)).1.tree = (origin.run (logsOf after)).tree ∧
                (now.settleAction p (some e)).1.tree.eraseLogs = origin.tree.eraseLogs) ∧
              (¬ started.Quiet after → (now.settleAction p (some e)).1 = now) := by
  refine ⟨origin.startAction_eq_ok_iff action uid, fun e => startAction_eq_error, fun p begun => ?_⟩
  intro started
  obtain ⟨version, back⟩ := setsBack_startAction begun
  refine ⟨back.own, fun after => ⟨rfl, fun e => ⟨rfl, fun quiet => ?_, fun raised => ?_⟩⟩⟩
  · have same : (started.enact after).version = p.version :=
      ((quiet_iff started after).1 quiet).trans version
    have tree := (back.enact quiet).settleAction same e
    exact ⟨tree, by rw [tree, eraseLogs_run_logsOf]⟩
  · have other : (started.enact after).version ≠ p.version := fun same =>
      raised ((quiet_iff started after).2 (same.trans version.symm))
    rw [settleAction, rollBack, if_neg other]

/-- A chart that is suspended, and a pod. -/
def suspendedChart : Store :=
  { empty "flux-system" 2 with
    tree := .node { Resource.placeholder with
        uid := "chart", kind := "HelmChart", metadata := .helmChart { isSuspended := true } }
      [.node { Resource.placeholder with uid := "pod", kind := "Pod" } []] }

/-- A line of the pod, a delta that does not fit, an action that cannot begin, and a request that
succeeds. -/
def meanwhile (line : LogLine) (p : PendingAction) : List Activity :=
  [.operation (.appendLog "pod" line), .operation (.delta (.remove "pod" (some "gone"))),
    .begin .suspend "pod", .settle p none]

/-- A chart whose action fails after a log line, and again after another action. -/
theorem settleAction_enact_suspendedChart :
    let line : LogLine := { timestamp := .epoch, container := "main", text := "started" }
    let p : PendingAction :=
      { action := .resume, uid := "chart", previous := { isSuspended := true }, version := 1 }
    let started := (suspendedChart.startAction .resume "").1
    let quiet := meanwhile line p
    let loud := meanwhile line p ++ [.begin .reconcile "chart"]
    (suspendedChart.startAction .suspend "pod").2 = .error (.notReconcilable "pod" "Pod") ∧
      (suspendedChart.startAction .suspend "pod").1 = suspendedChart ∧
      (suspendedChart.startAction .resume "").2 = .ok p ∧ started.Quiet quiet ∧
      ((started.enact quiet).settleAction p (some (.notFound "chart"))).1.tree =
        (suspendedChart.run [.appendLog "pod" line]).tree ∧
      ¬ started.Quiet loud ∧
      ((started.enact loud).settleAction p (some (.notFound "chart"))).1 = started.enact loud := by
  intro line p started quiet loud
  obtain ⟨-, refused, -⟩ := settleAction_enact suspendedChart .suspend "pod"
  obtain ⟨-, -, settled⟩ := settleAction_enact suspendedChart .resume ""
  have calm : started.Quiet quiet := by decide
  have raised : ¬ started.Quiet loud := by decide
  obtain ⟨-, settled⟩ := settled p rfl
  exact ⟨rfl, refused _ rfl, rfl, calm, ((settled quiet).2 _).2.1 calm |>.1, raised,
    ((settled loud).2 _).2.2 raised⟩

end ResourceTree.Store
