import ResourceTree.Decode
import ResourceTree.Proofs.Resource.Kind
import ResourceTree.Proofs.Result
import ResourceTree.Proofs.Wire.RoundTrip

/-!
# The faults of a record

A node record is decoded if no field in its whole subtree has a fault, and is refused for the first
fault otherwise. `faults` lists the faults in the order in which they count, without decoding
anything, and `WellFormed` says what a record without faults looks like. Each decoder is shown to end
by the list of its own faults; the lists are joined as the decoders are.
-/

namespace ResourceTree
set_option autoImplicit false

/-- How a computation ends whose faults are those of a list: it is refused for the first one, and
comes to a result if there is none. -/
def EndsBy {ε α : Type} (x : Except ε α) : List ε → Prop
  | [] => ∃ a, x = .ok a
  | e :: _ => x = .error e

namespace EndsBy

variable {ε α β : Type} {x : Except ε α} {es fs : List ε}

/-- A computation without faults comes to a result. -/
theorem ok (a : α) : EndsBy (.ok a : Except ε α) [] := ⟨a, rfl⟩

/-- The faults of a second step count behind those of the first. -/
theorem bind {f : α → Except ε β} (first : EndsBy x es)
    (second : ∀ a, x = .ok a → EndsBy (f a) fs) : EndsBy (x >>= f) (es ++ fs) := by
  cases es with
  | nil =>
    obtain ⟨a, rfl⟩ := first
    exact second a rfl
  | cons e es =>
    have refused : x = .error e := first
    rw [refused]
    rfl

/-- A step that cannot be refused adds no fault. -/
theorem andThen {f : α → Except ε β} (first : EndsBy x es) (next : ∀ a, ∃ b, f a = .ok b) :
    EndsBy (x >>= f) es := by
  have ends : EndsBy (x >>= f) (es ++ []) := first.bind fun a _ => next a
  rwa [List.append_nil] at ends

/-- What is done with the result adds no fault. -/
theorem map (f : α → β) (ends : EndsBy x es) : EndsBy (x.map f) es :=
  ends.andThen fun a => ⟨f a, rfl⟩

/-- The faults of a list are those of its items, in order. -/
theorem mapM {f : α → Except ε β} {faultsOf : α → List ε}
    (each : ∀ a, EndsBy (f a) (faultsOf a)) (as : List α) :
    EndsBy (as.mapM f) (as.flatMap faultsOf) := by
  induction as with
  | nil => exact ok []
  | cons a as ih =>
    rw [List.mapM_cons, List.flatMap_cons]
    exact (each a).bind fun b _ => ih.andThen fun bs => ⟨b :: bs, rfl⟩

/-- There is a result exactly if there is no fault. -/
theorem eq_ok_iff (ends : EndsBy x es) : (∃ a, x = .ok a) ↔ es = [] := by
  cases es with
  | nil => exact ⟨fun _ => rfl, fun _ => ends⟩
  | cons e es =>
    have refused : x = .error e := ends
    rw [refused]
    exact ⟨fun ⟨_, h⟩ => (by cases h), fun h => by cases h⟩

/-- The error is the first of the faults. -/
theorem eq_error_iff (ends : EndsBy x es) (e : ε) : x = .error e ↔ es.head? = some e := by
  cases es with
  | nil =>
    obtain ⟨a, rfl⟩ := ends
    exact ⟨fun h => (by cases h), fun h => by cases h⟩
  | cons e' es =>
    have refused : x = .error e' := ends
    rw [refused, List.head?_cons, Except.error.injEq, Option.some.injEq]

end EndsBy

namespace Wire

/-- The names that a status may have. -/
def statusNames : List String := ["unknown", "success", "failed", "pending", "warning"]

/-- The kinds whose records tell how they are reconciled. -/
def fluxKinds : List String :=
  ["Kustomization", "HelmRelease", "HelmChart", "HelmRepository", "GitRepository", "OCIRepository"]

/-- A text that is a time. -/
def IsTime (value : String) : Prop := (Instant.ofText? value).isSome = true

/-- A field that is absent, empty or a time. -/
def IsTimeIfAny (field : Option String) : Prop := ∀ value ∈ field, value = "" ∨ IsTime value

/-- A field that is absent, empty or a time of the first year or before it. -/
def CountsAsAbsent (field : Option String) : Prop :=
  ∀ value ∈ field, value = "" ∨ ∃ t, Instant.ofText? value = some t ∧ t.year ≤ 1

/-- What is asked of a record by itself. -/
structure Record.WellFormed (w : Record) : Prop where
  status : ∀ s ∈ w.status, s = "" ∨ s ∈ statusNames
  createdAt : IsTime w.createdAt
  deletedAt : IsTimeIfAny w.deletedAt
  conditions : ∀ c ∈ w.conditions, IsTime c.lastTransitionTime
  events : ∀ e ∈ w.events, IsTime e.firstObserved ∧ IsTime e.lastObserved
  flux : w.kind ∈ fluxKinds → ∀ f ∈ w.flux,
    IsTimeIfAny f.lastHandledReconcileAt ∧ IsTimeIfAny f.lastSyncAt
  /-- The block of the kind is asked only where the common one has no answer. -/
  kustomization : w.kind = "Kustomization" →
    CountsAsAbsent (w.flux.bind (·.lastHandledReconcileAt)) →
    ∀ k ∈ w.kustomization, IsTimeIfAny k.lastHandledReconcileAt

mutual

/-- The records of a whole subtree, in pre-order. -/
def Node.records : Node → List Record
  | .node w cs => w :: Node.recordsAll cs

def Node.recordsAll : List Node → List Record
  | [] => []
  | n :: rest => n.records ++ Node.recordsAll rest

end

end Wire

namespace Decode

open Wire (IsTime IsTimeIfAny CountsAsAbsent statusNames fluxKinds)

instance (value : String) : Decidable (IsTime value) := inferInstanceAs (Decidable (_ = true))

instance (field : Option String) : Decidable (CountsAsAbsent field) :=
  match field with
  | none => .isTrue fun _ member => nomatch member
  | some value =>
    match read : Instant.ofText? value with
    | none => decidable_of_iff (value = "") (by simp [CountsAsAbsent, read])
    | some t => decidable_of_iff (value = "" ∨ t.year ≤ 1) (by simp [CountsAsAbsent, read])

/-! ## The faults of single fields -/

def timeFaults (field value : String) : List DecodeError :=
  if IsTime value then [] else [.timestamp field value]

def optionalTimeFaults (field : String) : Option String → List DecodeError
  | none => []
  | some value => if value = "" then [] else timeFaults field value

def statusFaults : Option String → List DecodeError
  | none => []
  | some s => if s = "" ∨ s ∈ statusNames then [] else [.unknownStatus s]

def conditionFaults (c : Wire.Condition) : List DecodeError :=
  timeFaults "lastTransitionTime" c.lastTransitionTime

def eventFaults (e : Wire.Event) : List DecodeError :=
  timeFaults "firstObserved" e.firstObserved ++ timeFaults "lastObserved" e.lastObserved

/-- The faults of the reconcile state, whose own answer may leave the question to another field. -/
def fluxFaults (own : Wire.Flux) (handledAt : Option String) : List DecodeError :=
  optionalTimeFaults "fluxMetadata.lastHandledReconcileAt" own.lastHandledReconcileAt
    ++ (if CountsAsAbsent own.lastHandledReconcileAt then
        optionalTimeFaults "lastHandledReconcileAt" handledAt
      else [])
    ++ optionalTimeFaults "fluxMetadata.lastSyncAt" own.lastSyncAt

def metadataFaults (w : Wire.Record) : List DecodeError :=
  if w.kind ∈ fluxKinds then
    fluxFaults (w.flux.getD {})
      (if w.kind = "Kustomization" then w.kustomization.bind (·.lastHandledReconcileAt) else none)
  else []

def headFaults (w : Wire.Record) : List DecodeError :=
  metadataFaults w ++ (statusFaults w.status ++
    (timeFaults "createdAt" w.createdAt ++ optionalTimeFaults "deletedAt" w.deletedAt))

mutual

/-- The faults of a record and of those below it, in the order in which they count: metadata, status,
times, children from left to right, conditions, events. -/
def faults : Wire.Node → List DecodeError
  | .node w cs =>
    headFaults w ++ (faultsAll cs ++
      (w.conditions.flatMap conditionFaults ++ w.events.flatMap eventFaults))

def faultsAll : List Wire.Node → List DecodeError
  | [] => []
  | n :: rest => faults n ++ faultsAll rest

end

/-! ## Decoders end by their faults -/

/-- A time is refused for its text alone. -/
theorem time_endsBy (field value : String) : EndsBy (time field value) (timeFaults field value) := by
  cases read : Instant.ofText? value with
  | none =>
    simp only [time, timeFaults, IsTime, read]
    rfl
  | some t =>
    simp only [time, timeFaults, IsTime, read]
    exact .ok t

theorem nonEmpty_of_ne {value : String} (filled : value ≠ "") :
    nonEmpty (some value) = some value := by
  simp [nonEmpty, filled]

/-- A time that may be absent is refused if it is there and is none. -/
theorem optionalTime_endsBy (field : String) (value : Option String) :
    EndsBy (optionalTime field value) (optionalTimeFaults field value) := by
  cases value with
  | none => exact .ok none
  | some value =>
    by_cases blank : value = ""
    · subst blank
      exact .ok none
    · rw [optionalTime, nonEmpty_of_ne blank, optionalTimeFaults, if_neg blank]
      exact (time_endsBy field value).andThen fun t => ⟨_, rfl⟩

/-- Where an optional time is missing after all. -/
theorem optionalTime_eq_none_iff {field : String} {value : Option String} {t : Option Instant}
    (h : optionalTime field value = .ok t) : t = none ↔ CountsAsAbsent value := by
  cases value with
  | none =>
    cases h
    exact ⟨fun _ _ member => (by cases member), fun _ => rfl⟩
  | some value =>
    by_cases blank : value = ""
    · subst blank
      cases h
      exact ⟨fun _ _ member => .inl (Option.mem_some.1 member).symm, fun _ => rfl⟩
    · rw [optionalTime, nonEmpty_of_ne blank] at h
      obtain ⟨i, read, h⟩ := bind_eq_ok.1 h
      have parsed := time_eq_ok.1 read
      rw [← pure_eq_ok.1 h]
      by_cases late : i.year > 1
      · simp [late, CountsAsAbsent, blank, parsed]
      · simp [late, CountsAsAbsent, parsed, Int.not_lt.1 late]

/-- A status is refused if it is there and has no such name. -/
theorem status_endsBy (name : Option String) : EndsBy (status name) (statusFaults name) := by
  cases name with
  | none => exact .ok Status.unknown
  | some s =>
    by_cases blank : s = ""
    · subst blank
      exact .ok Status.unknown
    · rw [status, nonEmpty_of_ne blank, statusFaults]
      by_cases known : s ∈ statusNames
      · rw [if_pos (.inr known)]
        simp only [statusNames, List.mem_cons, List.not_mem_nil, or_false] at known
        rcases known with rfl | rfl | rfl | rfl | rfl <;> exact .ok _
      · have unknown : Status.ofName? s = none := by
          refine List.find?_eq_none.2 fun t _ named => known ?_
          rw [← of_decide_eq_true named]
          cases t <;> decide
        rw [if_neg (not_or.2 ⟨blank, known⟩)]
        simp only [unknown]
        rfl

/-- A condition is refused for its time alone. -/
theorem condition_endsBy (w : Wire.Condition) : EndsBy (condition w) (conditionFaults w) :=
  (time_endsBy "lastTransitionTime" w.lastTransitionTime).andThen fun _ => ⟨_, rfl⟩

/-- An event is refused for the time it was first observed at, or else for the last one. -/
theorem event_endsBy (w : Wire.Event) : EndsBy (event w) (eventFaults w) :=
  (time_endsBy "firstObserved" w.firstObserved).bind fun _ _ =>
    (time_endsBy "lastObserved" w.lastObserved).andThen fun _ => ⟨_, rfl⟩

/-- A state of reconciliation is refused for one of its times. -/
theorem flux_endsBy (own : Wire.Flux) (reconciling suspended : Bool) (handledAt : Option String) :
    EndsBy (flux own reconciling suspended handledAt) (fluxFaults own handledAt) := by
  unfold flux fluxFaults
  rw [List.append_assoc]
  refine (optionalTime_endsBy _ _).bind fun first read => ?_
  have absent := optionalTime_eq_none_iff read
  have synced := optionalTime_endsBy "fluxMetadata.lastSyncAt" own.lastSyncAt
  cases first with
  | none =>
    rw [if_pos (absent.1 rfl)]
    exact (optionalTime_endsBy _ _).bind fun _ _ => synced.andThen fun _ => ⟨_, rfl⟩
  | some t =>
    rw [if_neg fun counts => by cases absent.2 counts]
    exact synced.andThen fun _ => ⟨_, rfl⟩

/-- A kind without reconcile state has none of its faults. -/
theorem metadataFaults_of_other {w : Wire.Record} (other : w.kind ∉ fluxKinds) :
    metadataFaults w = [] := if_neg other

/-- Of a Kustomization both places are read that may tell when it was handled. -/
theorem metadataFaults_of_kustomization {w : Wire.Record} (kind : w.kind = "Kustomization") :
    metadataFaults w = fluxFaults (w.flux.getD {})
      (w.kustomization.getD {}).lastHandledReconcileAt := by
  have block : w.kustomization.bind (·.lastHandledReconcileAt) =
      (w.kustomization.getD {}).lastHandledReconcileAt := by
    cases w.kustomization with
    | none => rfl
    | some k => rfl
  rw [metadataFaults, if_pos (by rw [kind]; decide), if_pos kind, block]

/-- Of any other kind that is reconciled one place is read. -/
theorem metadataFaults_of_flux {w : Wire.Record} (kind : w.kind ∈ fluxKinds)
    (own : w.kind ≠ "Kustomization") : metadataFaults w = fluxFaults (w.flux.getD {}) none := by
  rw [metadataFaults, if_pos kind, if_neg own]

/-- Metadata are refused for the times of their kind. -/
theorem metadata_endsBy (w : Wire.Record) : EndsBy (metadata w) (metadataFaults w) := by
  unfold metadata
  cases selected : Kind.ofName? w.kind with
  | none =>
    have other : w.kind ∉ fluxKinds := by
      intro known
      simp only [fluxKinds, List.mem_cons, List.not_mem_nil, or_false] at known
      rcases known with known | known | known | known | known | known <;>
        (rw [known] at selected; exact absurd selected (by decide))
    rw [metadataFaults_of_other other]
    exact .ok _
  | some k =>
    have kind := Kind.name_of_ofName? selected
    cases k with
    | kustomization =>
      rw [metadataFaults_of_kustomization kind.symm]
      exact (flux_endsBy _ _ _ _).map _
    | helmRelease | helmChart | helmRepository | gitRepository | ociRepository =>
      rw [metadataFaults_of_flux (by rw [← kind]; decide) (by rw [← kind]; decide)]
      exact (flux_endsBy _ _ _ _).map _
    | deployment | pod | persistentVolumeClaim | bucket | clusterRole | clusterRoleBinding
    | customResourceDefinition =>
      rw [metadataFaults_of_other (by rw [← kind]; decide)]
      exact .ok _

/-- What a record says of itself is refused for the first fault in the order of decoding. -/
theorem head_endsBy (w : Wire.Record) : EndsBy (head w) (headFaults w) :=
  (metadata_endsBy w).bind fun _ _ => (status_endsBy w.status).bind fun _ _ =>
    (time_endsBy "createdAt" w.createdAt).bind fun _ _ =>
      (optionalTime_endsBy "deletedAt" w.deletedAt).andThen fun _ => ⟨_, rfl⟩

mutual

/-- A node record is refused for the first fault of its own, or else for that of its children. -/
theorem under_endsBy (parentId : Option String) (w : Wire.Node) :
    EndsBy (under parentId w) (faults w) := by
  cases w with
  | node w cs =>
    rw [under, faults]
    exact (head_endsBy w).bind fun _ _ => (underAll_endsBy (some w.uid) cs).bind fun _ _ =>
      (EndsBy.mapM condition_endsBy w.conditions).bind fun _ _ =>
        (EndsBy.mapM event_endsBy w.events).andThen fun _ => ⟨_, rfl⟩

theorem underAll_endsBy (parentId : Option String) (ws : List Wire.Node) :
    EndsBy (underAll parentId ws) (faultsAll ws) := by
  cases ws with
  | nil => exact .ok []
  | cons w ws =>
    rw [underAll, faultsAll]
    exact (under_endsBy parentId w).bind fun _ _ =>
      (underAll_endsBy parentId ws).andThen fun _ => ⟨_, rfl⟩

end

/-! ## Records without faults -/

/-- A text that stands for a time has no fault. -/
theorem timeFaults_eq_nil_iff (field value : String) : timeFaults field value = [] ↔ IsTime value := by
  unfold timeFaults
  split
  · next time => exact ⟨fun _ => time, fun _ => rfl⟩
  · next broken => exact ⟨fun h => (by cases h), fun time => absurd time broken⟩

/-- A time that may be absent has no fault if it is absent, empty or a time. -/
theorem optionalTimeFaults_eq_nil_iff (field : String) (value : Option String) :
    optionalTimeFaults field value = [] ↔ IsTimeIfAny value := by
  cases value with
  | none => exact ⟨fun _ _ member => (by cases member), fun _ => rfl⟩
  | some value =>
    by_cases blank : value = ""
    · simp [optionalTimeFaults, IsTimeIfAny, blank]
    · simp [optionalTimeFaults, IsTimeIfAny, blank, timeFaults_eq_nil_iff]

/-- A status has no fault if it is absent, empty or one of the names. -/
theorem statusFaults_eq_nil_iff (name : Option String) :
    statusFaults name = [] ↔ ∀ s ∈ name, s = "" ∨ s ∈ statusNames := by
  cases name with
  | none => exact ⟨fun _ _ member => (by cases member), fun _ => rfl⟩
  | some s => simp [statusFaults, or_iff_not_imp_left]

theorem isTimeIfAny_none : IsTimeIfAny none := fun _ member => by cases member

/-- The other place for the time counts only where the first one is left open. -/
theorem fluxFaults_eq_nil_iff (own : Wire.Flux) (handledAt : Option String) :
    fluxFaults own handledAt = [] ↔
      IsTimeIfAny own.lastHandledReconcileAt ∧ IsTimeIfAny own.lastSyncAt ∧
        (CountsAsAbsent own.lastHandledReconcileAt → IsTimeIfAny handledAt) := by
  rw [fluxFaults, List.append_eq_nil_iff, List.append_eq_nil_iff, optionalTimeFaults_eq_nil_iff,
    optionalTimeFaults_eq_nil_iff, and_assoc, and_congr_right_iff]
  intro _
  rw [and_comm, and_congr_right_iff]
  intro _
  split
  · next absent =>
    rw [optionalTimeFaults_eq_nil_iff]
    exact ⟨fun time _ => time, fun time => time absent⟩
  · next given => exact ⟨fun _ absent => absurd absent given, fun _ => rfl⟩

/-- What holds of an absent block by default holds of the block if it does where there is one. -/
theorem forall_mem_iff_getD {α : Type} {P : α → Prop} {d : α} (holds : P d) (block : Option α) :
    (∀ a ∈ block, P a) ↔ P (block.getD d) := by
  cases block with
  | none => exact ⟨fun _ => holds, fun _ _ member => by cases member⟩
  | some a => exact ⟨fun all => all a rfl, fun here _ member => Option.mem_some.1 member ▸ here⟩

/-- Metadata have no fault if the times that are read for their kind have none. -/
theorem metadataFaults_eq_nil_iff (w : Wire.Record) :
    metadataFaults w = [] ↔
      (w.kind ∈ fluxKinds → ∀ f ∈ w.flux,
        IsTimeIfAny f.lastHandledReconcileAt ∧ IsTimeIfAny f.lastSyncAt) ∧
      (w.kind = "Kustomization" → CountsAsAbsent (w.flux.bind (·.lastHandledReconcileAt)) →
        ∀ k ∈ w.kustomization, IsTimeIfAny k.lastHandledReconcileAt) := by
  have own := forall_mem_iff_getD (P := fun f : Wire.Flux =>
    IsTimeIfAny f.lastHandledReconcileAt ∧ IsTimeIfAny f.lastSyncAt) (d := {})
    ⟨isTimeIfAny_none, isTimeIfAny_none⟩ w.flux
  have block := forall_mem_iff_getD (P := fun k : Wire.Kustomization =>
    IsTimeIfAny k.lastHandledReconcileAt) (d := {}) isTimeIfAny_none w.kustomization
  have handled : w.flux.bind (·.lastHandledReconcileAt) =
      (w.flux.getD {}).lastHandledReconcileAt := by
    cases w.flux with
    | none => rfl
    | some f => rfl
  rw [own, block, handled]
  by_cases kustomization : w.kind = "Kustomization"
  · have known : "Kustomization" ∈ fluxKinds := by decide
    rw [metadataFaults_of_kustomization kustomization, fluxFaults_eq_nil_iff, ← and_assoc]
    simp only [kustomization, known, true_imp_iff]
  · by_cases known : w.kind ∈ fluxKinds
    · rw [metadataFaults_of_flux known kustomization, fluxFaults_eq_nil_iff]
      simp only [known, kustomization, true_imp_iff, false_imp_iff, and_true, isTimeIfAny_none,
        imp_true_iff]
    · rw [metadataFaults_of_other known]
      simp only [known, kustomization, false_imp_iff, and_true]

theorem conditionFaults_eq_nil_iff (c : Wire.Condition) :
    conditionFaults c = [] ↔ IsTime c.lastTransitionTime := timeFaults_eq_nil_iff _ _

theorem eventFaults_eq_nil_iff (e : Wire.Event) :
    eventFaults e = [] ↔ IsTime e.firstObserved ∧ IsTime e.lastObserved := by
  rw [eventFaults, List.append_eq_nil_iff, timeFaults_eq_nil_iff, timeFaults_eq_nil_iff]

/-- A record is well-formed if there are no faults before its children and none behind them. -/
theorem wellFormed_iff (w : Wire.Record) :
    w.WellFormed ↔ headFaults w = [] ∧ w.conditions.flatMap conditionFaults = [] ∧
      w.events.flatMap eventFaults = [] := by
  simp only [headFaults, List.append_eq_nil_iff, metadataFaults_eq_nil_iff, statusFaults_eq_nil_iff,
    timeFaults_eq_nil_iff, optionalTimeFaults_eq_nil_iff, List.flatMap_eq_nil_iff,
    conditionFaults_eq_nil_iff, eventFaults_eq_nil_iff]
  constructor
  · rintro ⟨status, createdAt, deletedAt, conditions, events, flux, kustomization⟩
    exact ⟨⟨⟨flux, kustomization⟩, status, createdAt, deletedAt⟩, conditions, events⟩
  · rintro ⟨⟨⟨flux, kustomization⟩, status, createdAt, deletedAt⟩, conditions, events⟩
    exact ⟨status, createdAt, deletedAt, conditions, events, flux, kustomization⟩

mutual

/-- A node record has no fault if each record in it is well formed. -/
theorem faults_eq_nil_iff (w : Wire.Node) : faults w = [] ↔ ∀ r ∈ w.records, r.WellFormed := by
  cases w with
  | node w cs =>
    rw [faults, Wire.Node.records, List.forall_mem_cons, wellFormed_iff, ← faultsAll_eq_nil_iff cs]
    simp only [List.append_eq_nil_iff]
    constructor
    · rintro ⟨head, below, behind⟩
      exact ⟨⟨head, behind⟩, below⟩
    · rintro ⟨⟨head, behind⟩, below⟩
      exact ⟨head, below, behind⟩

theorem faultsAll_eq_nil_iff (ws : List Wire.Node) :
    faultsAll ws = [] ↔ ∀ r ∈ Wire.Node.recordsAll ws, r.WellFormed := by
  cases ws with
  | nil => exact ⟨fun _ _ member => (by cases member), fun _ => rfl⟩
  | cons w ws =>
    rw [faultsAll, Wire.Node.recordsAll, List.forall_mem_append, List.append_eq_nil_iff,
      faults_eq_nil_iff w, faultsAll_eq_nil_iff ws]

end

/-! ## What a record is decoded to -/

mutual

/-- A tree of the shape of a record, with its uids, names and kinds at every place. -/
def Mirrors : Wire.Node → Tree → Prop
  | .node w cs, .node r ts =>
    r.uid = w.uid ∧ r.name = w.name ∧ r.kind = w.kind ∧ MirrorsAll cs ts

def MirrorsAll : List Wire.Node → List Tree → Prop
  | [], [] => True
  | w :: ws, t :: ts => Mirrors w t ∧ MirrorsAll ws ts
  | _, _ => False

end

mutual

/-- A decoded tree has the shape, the uids, the names and the kinds of its record. -/
theorem under_mirrors {parentId : Option String} {w : Wire.Node} {t : Tree}
    (h : under parentId w = .ok t) : Mirrors w t := by
  cases w with
  | node w cs =>
    obtain ⟨hd, -, h⟩ := bind_eq_ok.1 h
    obtain ⟨children, below, h⟩ := bind_eq_ok.1 h
    obtain ⟨conditions, -, h⟩ := bind_eq_ok.1 h
    obtain ⟨events, -, h⟩ := bind_eq_ok.1 h
    cases pure_eq_ok.1 h
    exact ⟨rfl, rfl, rfl, underAll_mirrors below⟩

theorem underAll_mirrors {parentId : Option String} {ws : List Wire.Node} {ts : List Tree}
    (h : underAll parentId ws = .ok ts) : MirrorsAll ws ts := by
  cases ws with
  | nil =>
    cases h
    trivial
  | cons w ws =>
    obtain ⟨t, here, h⟩ := bind_eq_ok.1 h
    obtain ⟨rest, there, h⟩ := bind_eq_ok.1 h
    cases pure_eq_ok.1 h
    exact ⟨under_mirrors here, underAll_mirrors there⟩

end

/-- A record is decoded exactly if every record of its subtree is well-formed, and is refused exactly
for the first fault otherwise; the tree that it is decoded to mirrors it. -/
theorem node_exact (w : Wire.Node) :
    ((∃ t, node w = .ok t) ↔ ∀ r ∈ w.records, r.WellFormed) ∧
      (∀ e, node w = .error e ↔ (faults w).head? = some e) ∧
      ∀ t, node w = .ok t → Mirrors w t := by
  have ends := under_endsBy w.parent w
  exact ⟨ends.eq_ok_iff.trans (faults_eq_nil_iff w), ends.eq_error_iff, fun t => under_mirrors⟩

/-- A release whose condition has no time, and below it a pod of a status that there is not. -/
def faulty : Wire.Node :=
  .node
    { uid := "release", kind := "HelmRelease", createdAt := "2025-01-01T00:00:00Z"
      conditions := [{ lastTransitionTime := "", type := "Ready", status := "True", message := ""
                       reason := "" }] }
    [.node { uid := "pod", kind := "Pod", createdAt := "soon", status := some "Ready" } []]

/-- The pod's status counts before its time and before the condition of the release. -/
theorem node_exact_faulty :
    node faulty = .error (.unknownStatus "Ready") ∧ ¬ (∀ r ∈ faulty.records, r.WellFormed) ∧
      node application = .ok applicationTree ∧ Mirrors application applicationTree := by
  have refused : node faulty = .error (.unknownStatus "Ready") :=
    ((node_exact faulty).2.1 _).2 (by decide +kernel)
  have decoded : node application = .ok applicationTree := by decide +kernel
  refine ⟨refused, fun sound => ?_, decoded, (node_exact application).2.2 _ decoded⟩
  obtain ⟨t, taken⟩ := (node_exact faulty).1.2 sound
  rw [refused] at taken
  cases taken

end Decode

end ResourceTree
