import ResourceTree.Encode
import ResourceTree.Decode
import ResourceTree.Proofs.Instant.Text
import ResourceTree.Proofs.Result

/-!
# Parts of a record read back

What a part of a record was decoded to is what its encoding is decoded to again. One lemma for each
decoder, from times up to the reconcile state; the metadata, which joins several blocks of the
record, comes last.
-/

namespace ResourceTree
set_option autoImplicit false

/-- An instant of a year that is written with four digits. -/
def Instant.FourDigits (t : Instant) : Prop := 0 ≤ t.year ∧ t.year ≤ 9999

instance (t : Instant) : Decidable t.FourDigits := inferInstanceAs (Decidable (_ ∧ _))

def Flux.instants (f : Flux) : List Instant :=
  f.lastHandledReconcileAt.toList ++ f.lastSyncAt.toList

def Event.instants (e : Event) : List Instant := [e.firstObserved, e.lastObserved]

def Metadata.instants (m : Metadata) : List Instant := m.flux?.toList.flatMap Flux.instants

/-- Metadata hold the times of their state of reconciliation and no others. -/
theorem Metadata.instants_eq {m : Metadata} {f : Flux} (h : m.flux? = some f) :
    m.instants = f.instants := by
  simp only [instants, h, Option.toList_some, List.flatMap_singleton]

/-- All instants that a resource holds. -/
def Resource.instants (r : Resource) : List Instant :=
  r.createdAt :: r.deletedAt.toList ++ r.metadata.instants
    ++ r.conditions.map (·.lastTransitionTime) ++ r.events.flatMap Event.instants
    ++ r.logs.map (·.timestamp)

/-- A record holds its own times and those of its conditions, events and log lines. -/
theorem Resource.mem_instants {r : Resource} {i : Instant} :
    i ∈ r.instants ↔ i = r.createdAt ∨ i ∈ r.deletedAt ∨ i ∈ r.metadata.instants ∨
      (∃ c ∈ r.conditions, c.lastTransitionTime = i) ∨ (∃ e ∈ r.events, i ∈ e.instants) ∨
      ∃ l ∈ r.logs, l.timestamp = i := by
  simp [instants, Option.mem_def]

namespace Decode

theorem nonEmpty_nonEmpty (s : Option String) : nonEmpty (nonEmpty s) = nonEmpty s := by
  simp [nonEmpty, Option.filter_filter]

/-- A time is taken exactly if its text stands for it. -/
theorem time_eq_ok {field value : String} {t : Instant} :
    time field value = .ok t ↔ Instant.ofText? value = some t := by
  unfold time
  split
  · next read => rw [read, Except.ok.injEq, Option.some.injEq]
  · next none => rw [none]; exact ⟨fun h => (by cases h), fun h => (by cases h)⟩

/-- A time whose year has four digits is taken again from its text, in whatever field it stands. -/
theorem time_toText {field value : String} {t : Instant} (h : time field value = .ok t)
    (years : t.FourDigits) (field' : String) : time field' t.toText = .ok t :=
  time_eq_ok.2 (Instant.ofText?_toText (Instant.valid_of_ofText? (time_eq_ok.1 h)) years.1 years.2)

theorem nonEmpty_toText {field : String} {t : Instant} (h : time field t.toText = .ok t) :
    nonEmpty (some t.toText) = some t.toText := by
  have filled : t.toText ≠ "" := by
    intro empty
    have read := time_eq_ok.1 h
    rw [empty] at read
    cases read
  simp [nonEmpty, filled]

/-- So is a time that may be absent. -/
theorem optionalTime_toText {field : String} {value : Option String} {t : Option Instant}
    (h : optionalTime field value = .ok t) (years : ∀ i ∈ t, i.FourDigits) (field' : String) :
    optionalTime field' (t.map (·.toText)) = .ok t := by
  unfold optionalTime at h
  split at h
  · cases h
    rfl
  · obtain ⟨i, read, h⟩ := bind_eq_ok.1 h
    cases pure_eq_ok.1 h
    by_cases late : i.year > 1
    · simp only [late, if_true] at years ⊢
      have back := time_toText read (years i rfl) field'
      unfold optionalTime
      rw [Option.map_some, nonEmpty_toText back]
      refine bind_eq_ok.2 ⟨i, back, ?_⟩
      rw [if_pos late]
      rfl
    · simp only [late, if_false]
      rfl

/-- A status is taken from its name. -/
theorem status_name (s : Status) : status (some s.name) = .ok s := by
  cases s with
  | unknown | success | failed | pending | warning => rfl

/-- A condition that was decoded is decoded again from its encoding. -/
theorem condition_encode {w : Wire.Condition} {c : Condition} (h : condition w = .ok c)
    (years : c.lastTransitionTime.FourDigits) : condition (Encode.condition c) = .ok c := by
  obtain ⟨t, read, h⟩ := bind_eq_ok.1 h
  cases pure_eq_ok.1 h
  refine bind_eq_ok.2 ⟨t, time_toText read years _, pure_eq_ok.2 ?_⟩
  by_cases holds : w.status = "True"
  · simp [Encode.condition, holds]
  · simp [Encode.condition, holds]

theorem ofWord_name (type : EventType) : EventType.ofWord type.name = type := by
  cases type with
  | normal | warning => decide

/-- An event that was decoded is decoded again from its encoding. -/
theorem event_encode {w : Wire.Event} {e : Event} (h : event w = .ok e)
    (years : ∀ i ∈ e.instants, i.FourDigits) : event (Encode.event e) = .ok e := by
  obtain ⟨first, readFirst, h⟩ := bind_eq_ok.1 h
  obtain ⟨last, readLast, h⟩ := bind_eq_ok.1 h
  cases pure_eq_ok.1 h
  refine bind_eq_ok.2 ⟨first, time_toText readFirst (years first (by simp [Event.instants])) _, ?_⟩
  refine bind_eq_ok.2 ⟨last, time_toText readLast (years last (by simp [Event.instants])) _, ?_⟩
  refine pure_eq_ok.2 ?_
  simp only [Encode.event, ofWord_name]

/-- Encoding a reference and decoding it again changes nothing. -/
theorem sourceRef_encode (w : Option Wire.SourceRef) :
    sourceRef ((sourceRef w).map Encode.sourceRef) = sourceRef w := by
  cases w with
  | none => rfl
  | some r =>
    by_cases named : r.kind ≠ "" ∨ r.name ≠ ""
    · have kept : sourceRef (some r) =
          some { kind := r.kind, name := r.name, ns := nonEmpty r.ns } := by
        simp [sourceRef, Option.filter, named]
      rw [kept]
      simp [sourceRef, Encode.sourceRef, Option.filter, named, nonEmpty_nonEmpty]
    · have blank : sourceRef (some r) = none := by
        simp [sourceRef, Option.filter, named]
      rw [blank]
      rfl

/-- The times of a state of reconciliation were both read as optional times. -/
theorem flux_times {own : Wire.Flux} {reconciling suspended : Bool} {handledAt : Option String}
    {f : Flux} (h : flux own reconciling suspended handledAt = .ok f) :
    (∃ field value, optionalTime field value = .ok f.lastHandledReconcileAt) ∧
      ∃ field value, optionalTime field value = .ok f.lastSyncAt := by
  obtain ⟨first, readFirst, h⟩ := bind_eq_ok.1 h
  cases first with
  | some t =>
    obtain ⟨handled, same, h⟩ := bind_eq_ok.1 h
    obtain ⟨synced, readSynced, h⟩ := bind_eq_ok.1 h
    cases pure_eq_ok.1 same
    cases pure_eq_ok.1 h
    exact ⟨⟨_, _, readFirst⟩, _, _, readSynced⟩
  | none =>
    obtain ⟨handled, readSecond, h⟩ := bind_eq_ok.1 h
    obtain ⟨synced, readSynced, h⟩ := bind_eq_ok.1 h
    cases pure_eq_ok.1 h
    exact ⟨⟨_, _, readSecond⟩, _, _, readSynced⟩

/-- The reconcile state comes back from its own block, whatever the block of the kind repeats of
it. -/
theorem flux_encode {own : Wire.Flux} {reconciling suspended : Bool} {handledAt : Option String}
    {f : Flux} (h : flux own reconciling suspended handledAt = .ok f)
    (years : ∀ i ∈ f.instants, i.FourDigits) {reconciling' suspended' : Bool}
    {handledAt' : Option String} (reconciles : (f.isReconciling || reconciling') = f.isReconciling)
    (suspends : (f.isSuspended || suspended') = f.isSuspended)
    (handles : handledAt' = none ∨ handledAt' = f.lastHandledReconcileAt.map (·.toText)) :
    flux (Encode.flux f) reconciling' suspended' handledAt' = .ok f := by
  obtain ⟨⟨_, _, readHandled⟩, _, _, readSynced⟩ := flux_times h
  clear h
  obtain ⟨isReconciling, isSuspended, handled, synced⟩ := f
  have handledYears : ∀ i ∈ handled, i.FourDigits := fun i member =>
    years i (by simp [Flux.instants, Option.mem_def.1 member])
  have syncedYears : ∀ i ∈ synced, i.FourDigits := fun i member =>
    years i (by simp [Flux.instants, Option.mem_def.1 member])
  have joined : Flux.mk (isReconciling || reconciling') (isSuspended || suspended') handled synced =
      Flux.mk isReconciling isSuspended handled synced := by
    dsimp only at reconciles suspends
    rw [reconciles, suspends]
  refine bind_eq_ok.2 ⟨handled, optionalTime_toText readHandled handledYears _, ?_⟩
  cases handled with
  | some t =>
    exact bind_eq_ok.2 ⟨_, rfl, bind_eq_ok.2
      ⟨synced, optionalTime_toText readSynced syncedYears _, pure_eq_ok.2 joined⟩⟩
  | none =>
    have absent : handledAt' = none := by simpa using handles
    rw [absent]
    exact bind_eq_ok.2 ⟨none, rfl, bind_eq_ok.2
      ⟨synced, optionalTime_toText readSynced syncedYears _, pure_eq_ok.2 joined⟩⟩

/-- A state of reconciliation without other fields is decoded again from its encoding. -/
theorem flux_encode_own {own : Wire.Flux} {f : Flux} (h : flux own false false none = .ok f)
    (years : ∀ i ∈ f.instants, i.FourDigits) : flux (Encode.flux f) false false none = .ok f :=
  flux_encode h years (Bool.or_false _) (Bool.or_false _) (.inl rfl)

/-- What does not look at the blocks of the kinds does not see them filled in. -/
theorem withMetadata_unseen {α : Type} (f : Wire.Record → α)
    (blind : ∀ w k h g o d p v, f { w with
      kustomization := k, helmRelease := h, gitRepository := g, ociRepository := o
      deployment := d, pod := p, volumeClaim := v } = f w) (w : Wire.Record) (m : Metadata) :
    f (Encode.withMetadata w m) = f w := by
  cases m with
  | kustomization | helmRelease | helmChart | helmRepository | gitRepository | ociRepository
  | deployment | pod | persistentVolumeClaim | generic => exact blind w _ _ _ _ _ _ _

/-- Metadata come back from the blocks that encoding fills in beside the reconcile state, if the kind
that selected them is kept. -/
theorem metadata_encode {w base : Wire.Record} {m : Metadata} (h : metadata w = .ok m)
    (kind : base.kind = w.kind) (own : base.flux = m.flux?.map Encode.flux)
    (years : ∀ i ∈ m.instants, i.FourDigits) :
    metadata (Encode.withMetadata base m) = .ok m := by
  have kept : (Encode.withMetadata base m).kind = w.kind :=
    (withMetadata_unseen (·.kind) (fun _ _ _ _ _ _ _ _ => rfl) base m).trans kind
  have state : (Encode.withMetadata base m).flux = m.flux?.map Encode.flux :=
    (withMetadata_unseen (·.flux) (fun _ _ _ _ _ _ _ _ => rfl) base m).trans own
  unfold metadata at h ⊢
  rw [kept, state]
  cases selected : Kind.ofName? w.kind with
  | none =>
    simp only [selected] at h
    exact h
  | some k =>
    cases k with
    | kustomization =>
      simp only [selected] at h
      obtain ⟨f, decoded, rfl⟩ := map_eq_ok.1 h
      rw [Metadata.instants_eq rfl] at years
      have back := flux_encode decoded years (Bool.or_self _) (Bool.or_self _) (.inr rfl)
      simp only [Encode.withMetadata, Metadata.flux?, Option.map_some, Option.getD_some, back,
        sourceRef_encode]
      rfl
    | helmRelease =>
      simp only [selected] at h
      obtain ⟨f, decoded, rfl⟩ := map_eq_ok.1 h
      rw [Metadata.instants_eq rfl] at years
      have back := flux_encode decoded years (Bool.or_self _) (Bool.or_self _) (.inl rfl)
      simp only [Encode.withMetadata, Metadata.flux?, Option.map_some, Option.getD_some, back,
        sourceRef_encode]
      rfl
    | helmChart =>
      simp only [selected] at h
      obtain ⟨f, decoded, rfl⟩ := map_eq_ok.1 h
      rw [Metadata.instants_eq rfl] at years
      have back := flux_encode_own decoded years
      simp only [Metadata.flux?, Option.map_some, Option.getD_some, back]
      rfl
    | helmRepository =>
      simp only [selected] at h
      obtain ⟨f, decoded, rfl⟩ := map_eq_ok.1 h
      rw [Metadata.instants_eq rfl] at years
      have back := flux_encode_own decoded years
      simp only [Metadata.flux?, Option.map_some, Option.getD_some, back]
      rfl
    | gitRepository =>
      simp only [selected] at h
      obtain ⟨f, decoded, rfl⟩ := map_eq_ok.1 h
      rw [Metadata.instants_eq rfl] at years
      have back := flux_encode_own decoded years
      simp only [Encode.withMetadata, Metadata.flux?, Option.map_some, Option.getD_some, back,
        nonEmpty_nonEmpty]
      rfl
    | ociRepository =>
      simp only [selected] at h
      obtain ⟨f, decoded, rfl⟩ := map_eq_ok.1 h
      rw [Metadata.instants_eq rfl] at years
      have back := flux_encode_own decoded years
      simp only [Encode.withMetadata, Metadata.flux?, Option.map_some, Option.getD_some, back,
        nonEmpty_nonEmpty]
      rfl
    | deployment | pod | persistentVolumeClaim =>
      simp only [selected] at h
      cases h
      rfl
    | bucket | clusterRole | clusterRoleBinding | customResourceDefinition =>
      simp only [selected] at h
      exact h

end Decode

end ResourceTree
