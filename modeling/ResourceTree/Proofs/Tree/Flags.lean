import ResourceTree.Proofs.Tree.Fields

/-!
# Reconcile flags in a tree

Setting the flags of a node replaces its reconcile state. Of two states that are set one after the
other the second one stays, the state that a node has may be set without effect, and log lines may come
before or after. So whatever flags were set, setting both back undoes it.
-/

namespace ResourceTree
set_option autoImplicit false

namespace Metadata

variable {m : Metadata} {flux : Flux}

/-- Metadata with a state of reconciliation take on another one. -/
theorem flux?_withFlux (managed : m.flux?.isSome) (flux : Flux) :
    (m.withFlux flux).flux? = some flux := by
  cases m <;> first | rfl | cases managed

/-- Of two states the later one stands. -/
theorem withFlux_withFlux (m : Metadata) (flux flux' : Flux) :
    (m.withFlux flux).withFlux flux' = m.withFlux flux' := by
  cases m <;> rfl

/-- Putting back what is there changes nothing. -/
theorem withFlux_eq_self (own : m.flux? = some flux) : m.withFlux flux = m := by
  cases m <;> cases own <;> rfl

end Metadata

/-- The state with the flags that are given. -/
def Flux.flagged (flux : Flux) (reconciling suspended : Option Bool) : Flux :=
  { flux with
    isReconciling := reconciling.getD flux.isReconciling
    isSuspended := suspended.getD flux.isSuspended }

/-- Both flags are set back, whichever of them was given. -/
theorem Flux.flagged_back (flux : Flux) (reconciling suspended : Option Bool) :
    (flux.flagged reconciling suspended).flagged (some flux.isReconciling) (some flux.isSuspended) =
      flux :=
  rfl

namespace Resource

def withFlux (flux : Flux) (r : Resource) : Resource :=
  { r with metadata := r.metadata.withFlux flux }

def prependLog (buffer : Nat) (line : LogLine) (r : Resource) : Resource :=
  { r with logs := (line :: r.logs).take buffer }

theorem uid_withFlux (flux : Flux) (r : Resource) : (r.withFlux flux).uid = r.uid := rfl

theorem uid_prependLog (buffer : Nat) (line : LogLine) (r : Resource) :
    (r.prependLog buffer line).uid = r.uid := rfl

theorem withFlux_withFlux (flux flux' : Flux) (r : Resource) :
    (r.withFlux flux).withFlux flux' = r.withFlux flux' :=
  congrArg (fun m => { r with metadata := m }) (Metadata.withFlux_withFlux r.metadata flux flux')

theorem withFlux_eq_self {flux : Flux} {r : Resource} (own : r.metadata.flux? = some flux) :
    r.withFlux flux = r :=
  congrArg (fun m => { r with metadata := m }) (Metadata.withFlux_eq_self own)

end Resource

namespace Tree

open Store (putFlux prependLog)

/-- The action's change of flags touches the fields of one node alone. -/
theorem putFlux_eq (flux : Flux) : putFlux flux = onResource (Resource.withFlux flux) := by
  funext t
  cases t with
  | node r cs => rfl

/-- A log line touches the fields of one node alone. -/
theorem prependLog_eq (buffer : Nat) (line : LogLine) :
    prependLog buffer line = onResource (Resource.prependLog buffer line) := by
  funext t
  cases t with
  | node r cs => rfl

/-- The reconcile state of the node that a uid stands for. -/
def flux? (uid : String) (t : Tree) : Option Flux := (t.resource? uid).bind (·.metadata.flux?)

theorem flux?_of_find? {uid : String} {t u : Tree} (found : t.find? uid = some u) :
    t.flux? uid = u.resource.metadata.flux? := by
  rw [flux?, resource?, found]
  rfl

theorem flux?_of_find?_eq_none {uid : String} {t : Tree} (absent : t.find? uid = none) :
    t.flux? uid = none := by
  rw [flux?, resource?, absent]
  rfl

/-- A node that a uid leads to, be it as the root for the empty uid, is found by its own uid. -/
theorem find?_of_resolve? {uid : String} {t u : Tree} (resolved : t.resolve? uid = some u) :
    t.find? u.uid = some u := by
  rw [resolve?] at resolved
  split at resolved
  · cases resolved
    cases t with
    | node r cs =>
      rw [find?]
      exact if_pos rfl
  · rw [find?_uid resolved]
    exact resolved

section Changes

variable (uid uid' : String) (flux flux' : Flux) (buffer : Nat) (line : LogLine) (t : Tree)

/-- Of two changes of flags at one node the later one stands. -/
theorem modify_putFlux_putFlux :
    (t.modify uid (putFlux flux)).modify uid (putFlux flux') = t.modify uid (putFlux flux') := by
  rw [putFlux_eq, putFlux_eq, modify_modify_here (uid_onResource (Resource.uid_withFlux flux))]
  refine congrArg (t.modify uid) (funext fun u => ?_)
  cases u with
  | node r cs => exact congrArg (node · cs) (Resource.withFlux_withFlux flux flux' r)

/-- Flags and log lines are changed in either order. -/
theorem modify_prependLog_putFlux :
    (t.modify uid' (prependLog buffer line)).modify uid (putFlux flux) =
      (t.modify uid (putFlux flux)).modify uid' (prependLog buffer line) := by
  rw [putFlux_eq, prependLog_eq]
  exact modify_comm_onResource (Resource.uid_prependLog buffer line) (Resource.uid_withFlux flux)
    (fun _ => rfl) uid' uid t

/-- Flags take no uid away and bring none in. -/
theorem contains_modify_putFlux :
    (t.modify uid (putFlux flux)).contains uid' = t.contains uid' := by
  rw [putFlux_eq]
  exact isSome_find?_onResource (Resource.uid_withFlux flux) uid' uid t

/-- A log line leaves the flags. -/
theorem flux?_modify_prependLog :
    (t.modify uid' (prependLog buffer line)).flux? uid = t.flux? uid := by
  rw [flux?, flux?, prependLog_eq, resource?_modify (Resource.uid_prependLog buffer line)]
  cases t.resource? uid with
  | none => rfl
  | some r =>
    by_cases same : uid = uid'
    · rw [if_pos same]
      rfl
    · rw [if_neg same]
      rfl

variable {uid uid' flux t}

/-- Putting back the flags that a node has leaves the tree as it is. -/
theorem modify_putFlux_eq_self (own : t.flux? uid = some flux) :
    t.modify uid (putFlux flux) = t := by
  refine modify_fixed fun u found => ?_
  rw [flux?_of_find? found] at own
  cases u with
  | node r cs => exact congrArg (node · cs) (Resource.withFlux_eq_self own)

/-- A change of flags is seen where it was made. -/
theorem flux?_modify_putFlux (managed : (t.flux? uid).isSome) :
    (t.modify uid (putFlux flux')).flux? uid = some flux' := by
  rw [flux?] at managed
  rw [flux?, putFlux_eq, resource?_modify (Resource.uid_withFlux flux'), if_pos rfl]
  cases found : t.resource? uid with
  | none =>
    rw [found] at managed
    cases managed
  | some r =>
    rw [found] at managed
    exact Metadata.flux?_withFlux managed flux'

/-- A change of flags is not seen at another node. -/
theorem flux?_modify_putFlux_other (other : uid ≠ uid') (flux : Flux) :
    (t.modify uid' (putFlux flux)).flux? uid = t.flux? uid := by
  rw [flux?, flux?, putFlux_eq, resource?_modify (Resource.uid_withFlux flux), if_neg other,
    Option.map_id]
  rfl

end Changes

end Tree

namespace Store

variable {s : Store} {uid : String}

/-- A node with flags takes the new ones, and its old ones are told. -/
theorem setFlags_of_flux? {previous : Flux} (own : s.tree.flux? uid = some previous)
    (reconciling suspended : Option Bool) :
    s.setFlags uid reconciling suspended =
      (s.change (s.tree.modify uid (putFlux (previous.flagged reconciling suspended))),
        .changed previous) := by
  rw [setFlags]
  cases found : s.tree.find? uid with
  | none => cases (Tree.flux?_of_find?_eq_none found).symm.trans own
  | some t =>
    rw [Tree.flux?_of_find? found] at own
    simp only [own]
    rfl

/-- Without a node that has flags the store stays as it is. -/
theorem setFlags_of_flux?_eq_none (none : s.tree.flux? uid = none)
    (reconciling suspended : Option Bool) : (s.setFlags uid reconciling suspended).1 = s := by
  rw [setFlags]
  cases found : s.tree.find? uid with
  | none => rfl
  | some t =>
    rw [Tree.flux?_of_find? found] at none
    simp only [none]

/-- Setting flags leaves the store as it is or changes the tree to one of the next version. -/
theorem setFlags_store (s : Store) (uid : String) (reconciling suspended : Option Bool) :
    (s.setFlags uid reconciling suspended).1 = s ∨
      ∃ tree, (s.setFlags uid reconciling suspended).1 = s.change tree := by
  cases own : s.tree.flux? uid with
  | none => exact .inl (setFlags_of_flux?_eq_none own _ _)
  | some previous =>
    rw [setFlags_of_flux? own]
    exact .inr ⟨_, rfl⟩

end Store

end ResourceTree
