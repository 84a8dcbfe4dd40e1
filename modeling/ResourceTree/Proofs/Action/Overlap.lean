import ResourceTree.Proofs.Action.Rollback
import ResourceTree.Proofs.Tree.Outline
import ResourceTree.Proofs.Tree.Walk

/-!
# Failed actions that overlap

A desk is a store with the actions whose requests are under way. Where all of these fail, an action
leaves no trace if its request fails before another action begins: its flags are set back from the
version that it remembers. Once another action begins, that version is gone for good, and the flags of
the first one stay, whatever is settled when. So what lasts of such a time are the actions that have
been overtaken, and the log lines: `enact_lasting`.
-/

namespace ResourceTree
set_option autoImplicit false

open Store (Activity)

/-! ## Times in which all requests fail -/

/-- A store with the actions that wait for the end of their requests. -/
structure Desk where
  store : Store
  waiting : List PendingAction

namespace Desk

/-- The desk after an activity: an action that begins waits until it is settled. -/
def act (d : Desk) (a : Activity) : Desk where
  store := d.store.act a
  waiting := match a with
    | .operation _ => d.waiting
    | .begin action uid => d.waiting ++ (d.store.startAction action uid).2.toOption.toList
    | .settle p _ => d.waiting.erase p

/-- The activities of a time in which all requests fail: an action begins, the request of one that
waits fails, or something else happens, such as a log line, that does not raise the version. -/
def Fails (d : Desk) : Activity → Prop
  | .operation o => ¬ d.store.Raises (.operation o)
  | .begin .. => True
  | .settle p failure => p ∈ d.waiting ∧ failure.isSome = true

instance (d : Desk) : ∀ a, Decidable (d.Fails a)
  | .operation o => inferInstanceAs (Decidable (¬ d.store.Raises (.operation o)))
  | .begin .. => .isTrue trivial
  | .settle p failure => inferInstanceAs (Decidable (p ∈ d.waiting ∧ failure.isSome = true))

end Desk

namespace Store

/-- Actions begin, each of them may be settled once, and all that are settled have failed. -/
def AllFail (s : Store) (activities : List Activity) : Prop :=
  Along Desk.act Desk.Fails ⟨s, []⟩ activities

instance (s : Store) (activities : List Activity) : Decidable (s.AllFail activities) :=
  inferInstanceAs (Decidable (Along Desk.act Desk.Fails ⟨s, []⟩ activities))

/-- Whether an action is settled before another one begins. -/
def settlesFirst (p : PendingAction) (s : Store) : List Activity → Bool
  | [] => false
  | .operation o :: rest => settlesFirst p (s.act (.operation o)) rest
  | .begin action uid :: rest =>
    !(s.startAction action uid).2.isOk && settlesFirst p (s.act (.begin action uid)) rest
  | .settle q failure :: rest => q = p || settlesFirst p (s.act (.settle q failure)) rest

/-- What lasts of an activity before others: a log line, or an action that is not settled before
another one begins. -/
def lastingOf (s : Store) (rest : List Activity) : Activity → List Activity
  | .operation o => (Activity.operation o).log?.toList.map .operation
  | .begin action uid => match (s.startAction action uid).2 with
    | .ok p =>
      if settlesFirst p (s.act (.begin action uid)) rest then [] else [.begin action uid]
    | .error _ => []
  | .settle .. => []

/-- What lasts of activities. -/
def lasting (s : Store) : List Activity → List Activity
  | [] => []
  | a :: rest => s.lastingOf rest a ++ (s.act a).lasting rest

/-! ## Stores of one tree -/

/-- Two stores of the same tree, which keep the same number of log lines. -/
structure SameTree (base s : Store) : Prop where
  tree : base.tree = s.tree
  buffer : base.logBuffer = s.logBuffer

section SameTree

variable {base s : Store} (same : SameTree base s)

include same

/-- An activity that raises no version does to the one store what its log line does to the other. -/
theorem SameTree.operation {o : Operation} (quiet : ¬ s.Raises (.operation o)) (rest : List Activity) :
    SameTree (base.enact (s.lastingOf rest (.operation o))) (s.act (.operation o)) := by
  cases s.passes_operation o with
  | raised version =>
    rw [Raises] at quiet
    omega
  | logged uid line log =>
    cases log
    show SameTree (base.perform (.appendLog uid line)) (s.perform (.appendLog uid line))
    rw [perform_appendLog, perform_appendLog, same.tree, same.buffer]
    exact ⟨rfl, rfl⟩
  | kept none _ tree buffer =>
    rw [lastingOf, none]
    exact ⟨same.tree.trans tree.symm, same.buffer.trans buffer.symm⟩

/-- An action begins in the one store as it does in the other. -/
theorem SameTree.begin (action : Action) (uid : String) :
    SameTree (base.act (.begin action uid)) (s.act (.begin action uid)) := by
  rw [act, act]
  rcases base.startAction_cases action uid with ⟨unmanaged, e, eq⟩ | ⟨t, _, found, managed, own, eq⟩
  · rcases s.startAction_cases action uid with ⟨-, e', eq'⟩ | ⟨t, _, found, managed, -, -⟩
    · rw [eq, eq']
      exact same
    · rw [← same.tree] at found
      cases (unmanaged t found).symm.trans managed
  · rw [same.tree] at found own
    rcases s.startAction_cases action uid with ⟨unmanaged, -⟩ | ⟨t', _, found', -, own', eq'⟩
    · cases (unmanaged t found).symm.trans managed
    · cases found.symm.trans found'
      cases own.symm.trans own'
      rw [eq, eq', same.tree]
      exact ⟨rfl, same.buffer⟩

theorem SameTree.setsBack {uid : String} {previous flux : Flux} {now : Store}
    (back : SetsBack uid previous flux s now) : SetsBack uid previous flux base now :=
  ⟨back.own, back.back.trans same.tree.symm, same.buffer.trans back.buffer⟩

end SameTree

/-! ## One activity -/

theorem enact_lastingOf_operation (base s : Store) (o : Operation) (rest : List Activity) :
    base.enact (s.lastingOf rest (.operation o)) = base.run (logsOf [.operation o]) := by
  rw [lastingOf]
  cases log : (Activity.operation o).log? with
  | none =>
    rw [logsOf, List.filterMap_cons_none log]
    rfl
  | some line =>
    rw [logsOf, List.filterMap_cons_some log]
    rfl

theorem version_of_begun {s : Store} {action : Action} {uid : String} {p : PendingAction}
    (begun : (s.startAction action uid).2 = .ok p) : p.version = s.version + 1 := by
  rcases s.startAction_cases action uid with ⟨-, e, eq⟩ | ⟨t, previous, -, -, -, eq⟩
  · rw [eq] at begun
    cases begun
  · rw [eq] at begun
    cases begun
    rfl

/-- A pending action of another version is settled without effect. -/
theorem settleAction_of_version_ne {s : Store} {p : PendingAction} (other : s.version ≠ p.version)
    (failure : Option ActionError) : (s.settleAction p failure).1 = s := by
  cases failure with
  | none => rfl
  | some e => rw [settleAction, rollBack, if_neg other]

/-- What a desk has come to, before the activities that are left: it has the tree of a store in which
only the lasting actions have begun, or it would have if one more action were set back, and that will
be. The other actions that wait remember a version that is gone, or will be when they are settled. -/
inductive Replays (base : Store) (d : Desk) (rest : List Activity) : Prop
  | settled (same : SameTree base d.store)
      (bound : ∀ q ∈ d.waiting, q.version ≤ d.store.version)
      (late : ∀ q ∈ d.waiting, q.version = d.store.version → settlesFirst q d.store rest = false)
  | held (p : PendingAction) (reconciling suspended : Option Bool)
      (back : SetsBack p.uid p.previous (p.previous.flagged reconciling suspended) base d.store)
      (version : d.store.version = p.version) (soon : settlesFirst p d.store rest = true)
      (gone : ∀ q ∈ d.waiting, q ≠ p → q.version < p.version)

section Step

variable {base : Store} {d : Desk} {rest : List Activity}

theorem replays_operation {o : Operation} (replays : Replays base d (.operation o :: rest))
    (quiet : ¬ d.store.Raises (.operation o)) :
    Replays (base.enact (d.store.lastingOf rest (.operation o))) (d.act (.operation o)) rest := by
  have version : (d.act (.operation o)).store.version = d.store.version := by
    have grown := d.store.version_le_act (.operation o)
    rw [Raises] at quiet
    exact Nat.le_antisymm (Nat.not_lt.1 quiet) grown
  cases replays with
  | settled same bound late =>
    refine .settled (same.operation quiet rest) ?_ ?_
    · rw [version]
      exact bound
    · rw [version]
      exact late
  | held p reconciling suspended back own soon gone =>
    refine .held p reconciling suspended ?_ (version.trans own) soon gone
    rw [enact_lastingOf_operation]
    exact back.act quiet

section Begin

variable {action : Action} {uid : String}

theorem replays_refused {e : ActionError} (refused : (d.store.startAction action uid).2 = .error e)
    (replays : Replays base d (.begin action uid :: rest)) :
    Replays (base.enact (d.store.lastingOf rest (.begin action uid)))
      (d.act (.begin action uid)) rest := by
  have store : d.store.act (.begin action uid) = d.store := startAction_eq_error refused
  have desk : d.act (.begin action uid) = d := by
    rw [Desk.act, store, refused, Except.toOption, Option.toList, List.append_nil]
  have passed : ∀ q, settlesFirst q d.store (.begin action uid :: rest) =
      settlesFirst q d.store rest := by
    intro q
    rw [settlesFirst, refused, store, Except.isOk, Except.toBool, Bool.not_false, Bool.true_and]
  rw [lastingOf, refused, desk]
  cases replays with
  | settled same bound late =>
    exact .settled same bound fun q waits now => passed q ▸ late q waits now
  | held p reconciling suspended back version soon gone =>
    exact .held p reconciling suspended back version (passed p ▸ soon) gone

/-- The action that begins is held until it is settled, if that comes first, and lasts otherwise. -/
theorem replays_begun {p : PendingAction} (begun : (d.store.startAction action uid).2 = .ok p)
    (same : SameTree base d.store) (bound : ∀ q ∈ d.waiting, q.version ≤ d.store.version) :
    Replays (base.enact (d.store.lastingOf rest (.begin action uid)))
      (d.act (.begin action uid)) rest := by
  obtain ⟨own, back⟩ := setsBack_startAction begun
  have now : (d.act (.begin action uid)).store.version = p.version := own
  have waiting : ∀ q ∈ (d.act (.begin action uid)).waiting, q.version < p.version ∨ q = p := by
    intro q waits
    rw [Desk.act, begun, Except.toOption, Option.toList] at waits
    rcases List.mem_append.1 waits with before | last
    · rw [version_of_begun begun]
      exact .inl (Nat.lt_succ_of_le (bound q before))
    · exact .inr (List.mem_singleton.1 last)
  have lasts : d.store.lastingOf rest (.begin action uid) =
      if settlesFirst p (d.store.act (.begin action uid)) rest then []
      else [.begin action uid] := by
    rw [lastingOf, begun]
  cases soon : settlesFirst p (d.store.act (.begin action uid)) rest with
  | true =>
    rw [lasts, if_pos soon]
    exact .held p _ _ (same.setsBack back) own soon fun q waits other =>
      (waiting q waits).resolve_right other
  | false =>
    rw [lasts, if_neg (Bool.eq_false_iff.1 soon)]
    refine .settled (same.begin action uid) ?_ ?_
    · intro q waits
      rw [now]
      rcases waiting q waits with before | last
      · exact Nat.le_of_lt before
      · exact Nat.le_of_eq (congrArg PendingAction.version last)
    · intro q waits current
      rw [now] at current
      rcases waiting q waits with before | last
      · exact absurd current (Nat.ne_of_lt before)
      · rw [last]
        exact soon

theorem replays_begin (replays : Replays base d (.begin action uid :: rest)) :
    Replays (base.enact (d.store.lastingOf rest (.begin action uid)))
      (d.act (.begin action uid)) rest := by
  cases begun : (d.store.startAction action uid).2 with
  | error e => exact replays_refused begun replays
  | ok p =>
    cases replays with
    | settled same bound _ => exact replays_begun begun same bound
    | held q _ _ _ _ soon _ =>
      -- the action that is held would have been settled first
      rw [settlesFirst, begun] at soon
      cases soon

end Begin

section Settle

variable {p : PendingAction} {failure : Option ActionError}

theorem settlesFirst_settle (q : PendingAction) :
    settlesFirst q d.store (.settle p failure :: rest) =
      (decide (p = q) || settlesFirst q (d.act (.settle p failure)).store rest) :=
  rfl

/-- An action that remembers another version is settled. -/
theorem replays_settle_other (replays : Replays base d (.settle p failure :: rest))
    (other : d.store.version ≠ p.version) : Replays base (d.act (.settle p failure)) rest := by
  have remaining : ∀ q ∈ (d.act (.settle p failure)).waiting, q ∈ d.waiting :=
    fun q => List.mem_of_mem_erase
  have store : (d.act (.settle p failure)).store = d.store := settleAction_of_version_ne other failure
  have passed : ∀ q : PendingAction, q.version = d.store.version →
      settlesFirst q d.store (.settle p failure :: rest) = settlesFirst q d.store rest := by
    intro q current
    have apart : p ≠ q := fun same => other (current.symm.trans (same ▸ rfl))
    rw [settlesFirst_settle, decide_eq_false apart, Bool.false_or, store]
  cases replays with
  | settled same bound late =>
    refine .settled ?_ ?_ ?_
    · rw [store]
      exact same
    · rw [store]
      exact fun q left => bound q (remaining q left)
    · rw [store]
      exact fun q left current => passed q current ▸ late q (remaining q left) current
  | held p' reconciling suspended back version soon gone =>
    refine .held p' reconciling suspended ?_ ?_ ?_ fun q left => gone q (remaining q left)
    · rw [store]
      exact back
    · rw [store]
      exact version
    · rw [store, ← passed p' version.symm]
      exact soon

/-- The action that is held is set back. -/
theorem replays_set_back {reconciling suspended : Option Bool} {e : ActionError}
    (back : SetsBack p.uid p.previous (p.previous.flagged reconciling suspended) base d.store)
    (version : d.store.version = p.version)
    (gone : ∀ q ∈ d.waiting, q ≠ p → q.version < p.version) :
    Replays base (d.act (.settle p (some e))) rest := by
  obtain ⟨tree, changed⟩ : ∃ tree, d.store.act (.settle p (some e)) = d.store.change tree := by
    rw [act, settleAction, rollBack, if_pos version, setFlags_of_flux? back.own]
    exact ⟨_, rfl⟩
  have raised : (d.act (.settle p (some e))).store.version = p.version + 1 := by
    rw [Desk.act, changed, ← version]
    rfl
  have past : ∀ q ∈ (d.act (.settle p (some e))).waiting, q.version < p.version + 1 := by
    intro q left
    by_cases own : q = p
    · rw [own]
      exact Nat.lt_succ_self _
    · exact Nat.lt_succ_of_lt (gone q (List.mem_of_mem_erase left) own)
  refine .settled ⟨(back.settleAction version e).symm, ?_⟩ ?_ ?_
  · rw [Desk.act, changed]
    exact back.buffer
  · rw [raised]
    exact fun q left => Nat.le_of_lt (past q left)
  · rw [raised]
    exact fun q left current => absurd current (Nat.ne_of_lt (past q left))

theorem replays_settle (replays : Replays base d (.settle p failure :: rest)) (waits : p ∈ d.waiting)
    (failed : failure.isSome = true) :
    Replays (base.enact (d.store.lastingOf rest (.settle p failure)))
      (d.act (.settle p failure)) rest := by
  show Replays base _ _
  cases replays with
  | settled same bound late =>
    refine replays_settle_other (.settled same bound late) fun current => ?_
    have missed := late p waits current.symm
    rw [settlesFirst_settle, decide_eq_true rfl] at missed
    cases missed
  | held p' reconciling suspended back version soon gone =>
    by_cases same : p = p'
    · subst same
      obtain ⟨e, rfl⟩ := Option.isSome_iff_exists.1 failed
      exact replays_set_back back version gone
    · refine replays_settle_other (.held p' reconciling suspended back version soon gone) ?_
      rw [version]
      exact (Nat.ne_of_lt (gone p waits same)).symm

end Settle

end Step

/-- One activity of a time in which all requests fail is replayed by what lasts of it. -/
theorem replays_act {base : Store} {d : Desk} {a : Activity} {rest : List Activity}
    (replays : Replays base d (a :: rest)) (fails : d.Fails a) :
    Replays (base.enact (d.store.lastingOf rest a)) (d.act a) rest := by
  cases a with
  | operation o => exact replays_operation replays fails
  | begin action uid => exact replays_begin replays
  | settle p failure => exact replays_settle replays fails.1 fails.2

/-- So are all of them. -/
theorem replays_along {base : Store} {d : Desk} {activities : List Activity}
    (replays : Replays base d activities) (fail : Along Desk.act Desk.Fails d activities) :
    SameTree (base.enact (d.store.lasting activities)) (d.store.enact activities) := by
  induction activities generalizing base d with
  | nil =>
    cases replays with
    | settled same _ _ => exact same
    | held _ _ _ _ _ soon _ => cases soon
  | cons a rest ih =>
    have next := ih (replays_act replays fail.1) fail.2
    rw [lasting, enact, List.foldl_append]
    exact next

/-! ## What lasts -/

/-- The activities that may last. -/
inductive Activity.Lasts : Activity → Prop
  | log (uid : String) (line : LogLine) : Lasts (.operation (.appendLog uid line))
  | begin (action : Action) (uid : String) : Lasts (.begin action uid)

/-- What lasts are log lines, and actions that never end. -/
theorem lasts_of_mem_lasting {s : Store} {activities : List Activity} :
    ∀ a ∈ s.lasting activities, a.Lasts := by
  induction activities generalizing s with
  | nil => exact fun _ none => nomatch none
  | cons a rest ih =>
    intro b member
    rw [lasting] at member
    rcases List.mem_append.1 member with here | later
    · cases a with
      | operation o =>
        obtain ⟨o', log, rfl⟩ := List.mem_map.1 here
        obtain ⟨uid, line, rfl⟩ := Activity.log?_eq_some (Option.mem_toList.1 log)
        exact .log uid line
      | begin action uid =>
        rw [lastingOf] at here
        split at here
        · split at here
          · cases here
          · rw [List.mem_singleton.1 here]
            exact .begin action uid
        · cases here
      | settle p failure => cases here
    · exact ih b later

/-- What lasts leaves the outline. -/
theorem outline_act {s : Store} {a : Activity} (lasts : a.Lasts) :
    (s.act a).tree.outline = s.tree.outline := by
  cases lasts with
  | log uid line => exact s.perform_outline rfl
  | begin action uid =>
    rw [act]
    rcases s.startAction_cases action uid with ⟨-, e, eq⟩ | ⟨t, previous, -, -, -, eq⟩
    · rw [eq]
    · rw [eq]
      exact Tree.outline_modify_putFlux t.uid _ s.tree

/-- The uid of the node that a uid leads to is in the outline. -/
theorem resolve?_uid_congr {t u : Tree} (same : t.outline = u.outline) (uid : String) :
    (t.resolve? uid).map Tree.uid = (u.resolve? uid).map Tree.uid := by
  have outlined : ∀ t : Tree, (t.outline.resolve? uid).map Tree.uid =
      (t.resolve? uid).map Tree.uid := by
    intro t
    rw [Tree.outline, Tree.resolve?_map (f := Resource.place) (fun _ => rfl), Option.map_map]
    refine congrArg (Option.map · _) (funext fun v => ?_)
    cases v with
    | node r cs => rfl
  rw [← outlined t, same, outlined u]

/-- Actions begin at other nodes than that of a uid. -/
def Elsewhere (s : Store) (uid : String) (activities : List Activity) : Prop :=
  ∀ action asked, .begin action asked ∈ activities → (s.tree.resolve? asked).map Tree.uid ≠ some uid

theorem flux?_act {s : Store} {uid : String} {a : Activity} (lasts : a.Lasts)
    (elsewhere : s.Elsewhere uid [a]) : (s.act a).tree.flux? uid = s.tree.flux? uid := by
  cases lasts with
  | log uid' line =>
    rw [act, perform_appendLog]
    cases s.tree.contains uid' with
    | false => rfl
    | true => exact Tree.flux?_modify_prependLog uid uid' s.logBuffer line s.tree
  | begin action asked =>
    rw [act]
    rcases s.startAction_cases action asked with ⟨-, e, eq⟩ | ⟨t, previous, found, -, -, eq⟩
    · rw [eq]
    · have other : uid ≠ t.uid := by
        rintro rfl
        exact elsewhere action asked List.mem_cons_self (by rw [found, Option.map_some])
      rw [eq]
      exact Tree.flux?_modify_putFlux_other other _

/-- What lasts leaves the flags of a node that no action was begun at. -/
theorem flux?_enact {s : Store} {uid : String} {activities : List Activity}
    (lasts : ∀ a ∈ activities, a.Lasts) (elsewhere : s.Elsewhere uid activities) :
    (s.enact activities).tree.flux? uid = s.tree.flux? uid := by
  induction activities generalizing s with
  | nil => rfl
  | cons a rest ih =>
    obtain ⟨here, later⟩ := List.forall_mem_cons.1 lasts
    have next : (s.act a).Elsewhere uid rest := by
      intro action asked member
      rw [resolve?_uid_congr (outline_act here)]
      exact elsewhere action asked (List.mem_cons_of_mem a member)
    have own : s.Elsewhere uid [a] := by
      intro action asked member
      exact elsewhere action asked (List.mem_singleton.1 member ▸ List.mem_cons_self)
    exact (ih later next).trans (flux?_act here own)

/-- Where every action ends, only log lines last. -/
theorem eraseLogs_enact {s : Store} {activities : List Activity}
    (lasts : ∀ a ∈ activities, a.Lasts) (none : ∀ action uid, .begin action uid ∉ activities) :
    (s.enact activities).tree.eraseLogs = s.tree.eraseLogs := by
  induction activities generalizing s with
  | nil => rfl
  | cons a rest ih =>
    obtain ⟨here, later⟩ := List.forall_mem_cons.1 lasts
    have next : ∀ action uid, .begin action uid ∉ rest :=
      fun action uid member => none action uid (List.mem_cons_of_mem a member)
    refine (ih later next).trans ?_
    cases here with
    | log uid line => exact s.eraseLogs_perform_appendLog uid line
    | begin action uid => exact absurd List.mem_cons_self (none action uid)

/-- If all requests fail, the tree is the one that comes of the lasting activities alone: of the actions
that were not settled before another one began, and the log lines. So a node at which no such action
began has the flags that it had, and if there was none at all, the tree is as before but for log
lines. -/
theorem enact_lasting {s : Store} {activities : List Activity} (fail : s.AllFail activities) :
    let now := s.enact activities
    now.tree = (s.enact (s.lasting activities)).tree ∧
      (∀ uid, s.Elsewhere uid (s.lasting activities) → now.tree.flux? uid = s.tree.flux? uid) ∧
      ((∀ action uid, .begin action uid ∉ s.lasting activities) →
        now.tree.eraseLogs = s.tree.eraseLogs) := by
  intro now
  have start : Replays s ⟨s, []⟩ activities :=
    .settled ⟨rfl, rfl⟩ (fun _ none => nomatch none) fun _ none => nomatch none
  have tree : now.tree = (s.enact (s.lasting activities)).tree := (replays_along start fail).tree.symm
  refine ⟨tree, fun uid elsewhere => ?_, fun none => ?_⟩
  · rw [tree]
    exact flux?_enact lasts_of_mem_lasting elsewhere
  · rw [tree]
    exact eraseLogs_enact lasts_of_mem_lasting none

/-- A repository and below it a chart, both of which can be reconciled. -/
def charts : Store :=
  { empty "flux-system" 2 with
    tree := .node { Resource.placeholder with
        uid := "repository", kind := "HelmRepository", metadata := .helmRepository {} }
      [.node { Resource.placeholder with
          uid := "chart", kind := "HelmChart", metadata := .helmChart {} } []] }

/-- The repository is to be reconciled and, before that has failed, the chart to be suspended. Both
requests fail. -/
def overtaking : List Activity :=
  [.begin .reconcile "", .begin .suspend "chart",
    .settle { action := .reconcile, uid := "repository", previous := {}, version := 1 }
      (some (.remote .reconcile "repository" (.http 500))),
    .settle { action := .suspend, uid := "chart", previous := {}, version := 2 }
      (some (.remote .suspend "chart" (.http 500)))]

/-- Only the first of two overlapping actions lasts, and a third one, of which the request fails after a
log line, does not. -/
theorem enact_lasting_charts :
    let line : LogLine := { timestamp := .epoch, container := "main", text := "pulled" }
    let p : PendingAction := { action := .resume, uid := "chart", previous := {}, version := 4 }
    let activities := overtaking ++
      [.begin .resume "chart", .operation (.appendLog "chart" line), .settle p (some (.notFound "chart"))]
    let lasting : List Activity := [.begin .reconcile "", .operation (.appendLog "chart" line)]
    charts.AllFail activities ∧ (charts.enact activities).tree = (charts.enact lasting).tree ∧
      (charts.enact activities).tree.flux? "chart" = some {} := by
  intro line p activities lasting
  have fail : charts.AllFail activities := by decide
  obtain ⟨tree, elsewhere, -⟩ := enact_lasting fail
  have lasts : charts.lasting activities = lasting := rfl
  rw [lasts] at tree elsewhere
  refine ⟨fail, tree, elsewhere "chart" ?_⟩
  intro action asked member
  rcases List.mem_cons.1 member with same | member
  · cases same
    decide
  · cases List.mem_singleton.1 member

/-- Both requests have failed, and the repository still shows that it is being reconciled. -/
theorem repository_stays_reconciling :
    charts.AllFail overtaking ∧ (overtaking.foldl Desk.act ⟨charts, []⟩).waiting = [] ∧
      charts.tree.flux? "repository" = some {} ∧
      (charts.enact overtaking).tree.flux? "repository" = some { isReconciling := true } := by
  decide

end Store

end ResourceTree
