import ResourceTree.Proofs.Wire.RoundTrip

/-!
# Empty texts in place of absent ones

A server that has no value for an optional text may leave the field out or send the empty text. A
record is decoded to the same tree either way, wherever in the record this is, with one exception: an
empty parent uid of the record's own hides the list of parents, which is asked only if there is none.
`node_fillAll` says what any number of fields filled with the empty text make of a record.
-/

namespace ResourceTree
set_option autoImplicit false

/-- The tree with another parent named at its root. -/
def Tree.withParent (parentId : Option String) : Tree → Tree
  | node r cs => node { r with parentId } cs

/-- Naming the parent that is named already changes nothing. -/
theorem Tree.withParent_eq_self_iff {parentId : Option String} {t : Tree} :
    t.withParent parentId = t ↔ t.resource.parentId = parentId := by
  cases t with
  | node r cs =>
    constructor
    · intro same
      exact (congrArg (fun t : Tree => t.resource.parentId) same).symm
    · rintro rfl
      rfl

namespace Wire

/-- The optional texts of a node record and of its blocks. -/
inductive OptionalText where
  | version | group | resource | ns | parentId | deletedAt | status
  | handledAt | syncedAt
  | kustomizationHandledAt | kustomizationSource | helmSource
  | branch | gitTag | gitSemver | gitName | commit
  | digest | ociTag | ociSemver | semverFilter
  deriving DecidableEq, Repr

/-- The empty text in place of an absent one. -/
def filled (s : Option String) : Option String := s.or (some "")

def SourceRef.fill (r : SourceRef) : SourceRef := { r with ns := filled r.ns }

/-- The record with one of its optional texts filled. In a block that is absent nothing is. -/
def Record.fill (r : Record) : OptionalText → Record
  | .version => { r with version := filled r.version }
  | .group => { r with group := filled r.group }
  | .resource => { r with resource := filled r.resource }
  | .ns => { r with ns := filled r.ns }
  | .parentId => { r with parentId := filled r.parentId }
  | .deletedAt => { r with deletedAt := filled r.deletedAt }
  | .status => { r with status := filled r.status }
  | .handledAt =>
    { r with flux := r.flux.map fun f =>
        { f with lastHandledReconcileAt := filled f.lastHandledReconcileAt } }
  | .syncedAt => { r with flux := r.flux.map fun f => { f with lastSyncAt := filled f.lastSyncAt } }
  | .kustomizationHandledAt =>
    { r with kustomization := r.kustomization.map fun k =>
        { k with lastHandledReconcileAt := filled k.lastHandledReconcileAt } }
  | .kustomizationSource =>
    { r with kustomization := r.kustomization.map fun k =>
        { k with sourceRef := k.sourceRef.map SourceRef.fill } }
  | .helmSource =>
    { r with helmRelease := r.helmRelease.map fun h =>
        { h with sourceRef := h.sourceRef.map SourceRef.fill } }
  | .branch =>
    { r with gitRepository := r.gitRepository.map fun g => { g with branch := filled g.branch } }
  | .gitTag => { r with gitRepository := r.gitRepository.map fun g => { g with tag := filled g.tag } }
  | .gitSemver =>
    { r with gitRepository := r.gitRepository.map fun g => { g with semver := filled g.semver } }
  | .gitName =>
    { r with gitRepository := r.gitRepository.map fun g => { g with name := filled g.name } }
  | .commit =>
    { r with gitRepository := r.gitRepository.map fun g => { g with commit := filled g.commit } }
  | .digest =>
    { r with ociRepository := r.ociRepository.map fun o => { o with digest := filled o.digest } }
  | .ociTag => { r with ociRepository := r.ociRepository.map fun o => { o with tag := filled o.tag } }
  | .ociSemver =>
    { r with ociRepository := r.ociRepository.map fun o => { o with semver := filled o.semver } }
  | .semverFilter =>
    { r with ociRepository := r.ociRepository.map fun o =>
        { o with semverFilter := filled o.semverFilter } }

namespace Node

/-- Changes the record at a place, which is given by the way from the root: the number of the child at
each step. -/
def onRecord (f : Record → Record) : List Nat → Node → Node
  | [], node r cs => node (f r) cs
  | i :: place, node r cs => node r (cs.modify i (onRecord f place))

/-- Fills an optional text of the record at a place. -/
def fill (w : Node) (place : List Nat) (field : OptionalText) : Node :=
  w.onRecord (·.fill field) place

/-- Fills optional texts at any places, one after the other. -/
def fillAll (w : Node) (fills : List (List Nat × OptionalText)) : Node :=
  fills.foldl (fun w (place, field) => w.fill place field) w

end Node

end Wire

namespace Decode

open Wire (OptionalText filled)

/-! ## What decoding makes of one filled text -/

/-- An empty text counts as none. -/
@[simp] theorem nonEmpty_filled (s : Option String) : nonEmpty (filled s) = nonEmpty s := by
  cases s with
  | none => rfl
  | some s => rfl

/-- An empty time counts as none. -/
@[simp] theorem optionalTime_filled (field : String) (value : Option String) :
    optionalTime field (filled value) = optionalTime field value := by
  rw [optionalTime, nonEmpty_filled, optionalTime]

/-- An empty status counts as none. -/
@[simp] theorem status_filled (name : Option String) : status (filled name) = status name := by
  rw [status, nonEmpty_filled, status]

/-- A reference with an empty namespace is one without. -/
@[simp] theorem sourceRef_fill (w : Option Wire.SourceRef) :
    sourceRef (w.map Wire.SourceRef.fill) = sourceRef w := by
  cases w with
  | none => rfl
  | some r =>
    by_cases named : r.kind ≠ "" ∨ r.name ≠ ""
    · simp [sourceRef, Wire.SourceRef.fill, Option.filter, named]
    · simp [sourceRef, Wire.SourceRef.fill, Option.filter, named]

/-- No filled text shows in the metadata. -/
theorem metadata_fill (r : Wire.Record) (field : OptionalText) :
    metadata (r.fill field) = metadata r := by
  cases field with
  | version | group | resource | ns | parentId | deletedAt | status => rfl
  | handledAt | syncedAt =>
    cases block : r.flux with
    | none => simp only [metadata, Wire.Record.fill, block, Option.map_none]
    | some f =>
      simp only [metadata, Wire.Record.fill, block, Option.map_some, Option.getD_some, flux,
        optionalTime_filled]
  | kustomizationHandledAt | kustomizationSource =>
    cases block : r.kustomization with
    | none => simp only [metadata, Wire.Record.fill, block, Option.map_none]
    | some k =>
      simp only [metadata, Wire.Record.fill, block, Option.map_some, Option.getD_some, flux,
        optionalTime_filled, sourceRef_fill]
  | helmSource =>
    cases block : r.helmRelease with
    | none => simp only [metadata, Wire.Record.fill, block, Option.map_none]
    | some h =>
      simp only [metadata, Wire.Record.fill, block, Option.map_some, Option.getD_some,
        sourceRef_fill]
  | branch | gitTag | gitSemver | gitName | commit =>
    cases block : r.gitRepository with
    | none => simp only [metadata, Wire.Record.fill, block, Option.map_none]
    | some g =>
      simp only [metadata, Wire.Record.fill, block, Option.map_some, Option.getD_some,
        nonEmpty_filled]
  | digest | ociTag | ociSemver | semverFilter =>
    cases block : r.ociRepository with
    | none => simp only [metadata, Wire.Record.fill, block, Option.map_none]
    | some o =>
      simp only [metadata, Wire.Record.fill, block, Option.map_some, Option.getD_some,
        nonEmpty_filled]

/-- No filled text shows in what a record says of itself. -/
theorem head_fill (r : Wire.Record) (field : OptionalText) : head (r.fill field) = head r := by
  rw [head, metadata_fill, head]
  cases field with
  | deletedAt => simp only [Wire.Record.fill, optionalTime_filled]
  | status => simp only [Wire.Record.fill, status_filled]
  | _ => rfl

/-- Of a record in the tree, the parent that it names is not asked. -/
theorem resource_fill (r : Wire.Record) (field : OptionalText) :
    resource (r.fill field) = resource r := by
  funext parentId hd conditions events
  cases field with
  | version | group | resource | ns =>
    simp only [resource, Wire.Record.fill, nonEmpty_filled]
  | _ => rfl

/-- A text that is filled at the root of a record does not show below a given parent. -/
theorem under_fill_here (parentId : Option String) (r : Wire.Record) (cs : List Wire.Node)
    (field : OptionalText) : under parentId (.node (r.fill field) cs) = under parentId (.node r cs) := by
  have uid : (r.fill field).uid = r.uid := by cases field <;> rfl
  have conditions : (r.fill field).conditions = r.conditions := by cases field <;> rfl
  have events : (r.fill field).events = r.events := by cases field <;> rfl
  rw [under, head_fill, uid, conditions, events, resource_fill, under]

/-- A change that does not show in any child does not show in all of them. -/
theorem underAll_modify {parentId : Option String} {f : Wire.Node → Wire.Node}
    (same : ∀ w, under parentId (f w) = under parentId w) (i : Nat) (ws : List Wire.Node) :
    underAll parentId (ws.modify i f) = underAll parentId ws := by
  induction ws generalizing i with
  | nil => rw [List.modify_nil]
  | cons w ws ih =>
    cases i with
    | zero => rw [List.modify_zero_cons, underAll, same, underAll]
    | succ i => rw [List.modify_succ_cons, underAll, ih, underAll]

/-- Below a given parent no text makes a difference by being empty instead of absent. -/
theorem under_fill (parentId : Option String) (w : Wire.Node) (place : List Nat)
    (field : OptionalText) : under parentId (w.fill place field) = under parentId w := by
  induction place generalizing parentId w with
  | nil =>
    cases w with
    | node r cs => exact under_fill_here parentId r cs field
  | cons i place ih =>
    cases w with
    | node r cs =>
      show under parentId (.node r (cs.modify i (·.fill place field))) = under parentId (.node r cs)
      rw [under, underAll_modify (fun w => ih (some r.uid) w), under]

/-! ## The parent that the root names -/

/-- The parent that the root names is filled at the root alone. -/
theorem parentId_fill (w : Wire.Node) (place : List Nat) (field : OptionalText) :
    (w.fill place field).record.parentId =
      if (place, field) = ([], .parentId) then filled w.record.parentId else w.record.parentId := by
  cases w with
  | node r cs =>
    cases place with
    | nil => cases field <;> rfl
    | cons i place => rfl

theorem parentIds_fill (w : Wire.Node) (place : List Nat) (field : OptionalText) :
    (w.fill place field).record.parentIds = w.record.parentIds := by
  cases w with
  | node r cs =>
    cases place with
    | nil => cases field <;> rfl
    | cons i place => rfl

theorem filled_filled (s : Option String) : filled (filled s) = filled s := by
  cases s with
  | none => rfl
  | some s => rfl

/-- After any fills the parent is filled if one of them is of the parent at the root. -/
theorem parentId_fillAll (w : Wire.Node) (fills : List (List Nat × OptionalText)) :
    (w.fillAll fills).record.parentId =
      if ([], .parentId) ∈ fills then filled w.record.parentId else w.record.parentId := by
  induction fills generalizing w with
  | nil => rfl
  | cons x fills ih =>
    obtain ⟨place, field⟩ := x
    show ((w.fill place field).fillAll fills).record.parentId = _
    rw [ih, parentId_fill]
    by_cases here : (place, field) = ([], .parentId)
    · rw [if_pos here, ← here, if_pos List.mem_cons_self, filled_filled, ite_self]
    · have later : ([], .parentId) ∈ (place, field) :: fills ↔ ([], .parentId) ∈ fills := by
        rw [List.mem_cons, or_iff_right fun same => here same.symm]
      simp only [if_neg here, later]

/-- No fill touches the list of parents. -/
theorem parentIds_fillAll (w : Wire.Node) (fills : List (List Nat × OptionalText)) :
    (w.fillAll fills).record.parentIds = w.record.parentIds := by
  induction fills generalizing w with
  | nil => rfl
  | cons x fills ih => exact (ih _).trans (parentIds_fill w x.1 x.2)

/-- An empty parent uid hides the list of parents. -/
theorem parentOf_filled (parentId : Option String) (parentIds : List String) :
    Wire.parentOf (filled parentId) parentIds =
      if parentId = none then none else Wire.parentOf parentId parentIds := by
  cases parentId with
  | none => rfl
  | some p => rfl

/-- Whether the parent of a root is asked from its list before texts are filled, and not after. -/
def Hides (w : Wire.Node) (fills : List (List Nat × OptionalText)) : Prop :=
  ([], .parentId) ∈ fills ∧ w.record.parentId = none

instance (w : Wire.Node) (fills : List (List Nat × OptionalText)) : Decidable (Hides w fills) :=
  inferInstanceAs (Decidable (_ ∧ _))

/-- A filled parent hides the list behind it, and no other fill changes the parent. -/
theorem parent_fillAll (w : Wire.Node) (fills : List (List Nat × OptionalText)) :
    (w.fillAll fills).parent = if Hides w fills then none else w.parent := by
  show Wire.parentOf (w.fillAll fills).record.parentId (w.fillAll fills).record.parentIds = _
  rw [parentId_fillAll, parentIds_fillAll]
  by_cases filling : ([], .parentId) ∈ fills
  · rw [if_pos filling, parentOf_filled]
    simp only [Hides, filling, true_and]
    rfl
  · rw [if_neg filling, if_neg fun hides => filling hides.1]
    rfl

/-! ## Whole records -/

/-- Below a given parent no fill shows at all. -/
theorem under_fillAll (parentId : Option String) (w : Wire.Node)
    (fills : List (List Nat × OptionalText)) :
    under parentId (w.fillAll fills) = under parentId w := by
  induction fills generalizing w with
  | nil => rfl
  | cons x fills ih => exact (ih _).trans (under_fill parentId w x.1 x.2)

/-- The parent that decoding is given is written at the root, and is not used for anything else. -/
theorem under_withParent (parentId parentId' : Option String) (w : Wire.Node) :
    under parentId' w = (under parentId w).map (·.withParent parentId') := by
  cases w with
  | node r cs =>
    rw [under, under]
    cases head r with
    | error e => rfl
    | ok hd =>
      cases underAll (some r.uid) cs with
      | error e => rfl
      | ok children =>
        cases r.conditions.mapM condition with
        | error e => rfl
        | ok conditions =>
          cases r.events.mapM event with
          | error e => rfl
          | ok events => rfl

/-- A record of which absent texts have been filled, in any fields at any places, is decoded as it was
before, but for the parent of the root where the list of parents has been hidden. So it is decoded to
another tree exactly if the list named a parent. -/
theorem node_fillAll (w : Wire.Node) (fills : List (List Nat × OptionalText)) :
    node (w.fillAll fills) =
        (if Hides w fills then (node w).map (·.withParent none) else node w) ∧
      (node (w.fillAll fills) = node w ↔
        ¬ (Hides w fills ∧ w.parent ≠ none ∧ ∃ t, node w = .ok t)) := by
  have decoded : node (w.fillAll fills) =
      if Hides w fills then (node w).map (·.withParent none) else node w := by
    rw [node, parent_fillAll, under_fillAll]
    by_cases hides : Hides w fills
    · rw [if_pos hides, if_pos hides, under_withParent w.parent none, node]
    · rw [if_neg hides, if_neg hides, node]
  refine ⟨decoded, ?_⟩
  rw [decoded]
  by_cases hides : Hides w fills
  · rw [if_pos hides]
    cases read : node w with
    | error e =>
      refine iff_of_true rfl fun both => ?_
      obtain ⟨-, -, t, taken⟩ := both
      cases taken
    | ok t =>
      have named : t.resource.parentId = w.parent := under_parent read
      rw [← named]
      constructor
      · rintro same ⟨-, parent, -⟩
        exact parent (Tree.withParent_eq_self_iff.1 (Except.ok.inj same))
      · intro harmless
        have orphan : t.resource.parentId = none := Classical.byContradiction fun parent =>
          harmless ⟨hides, parent, t, rfl⟩
        exact congrArg Except.ok (Tree.withParent_eq_self_iff.2 orphan)
  · rw [if_neg hides]
    exact ⟨fun _ both => hides both.1, fun _ => rfl⟩

/-- A pod that names its parent in the list only. -/
def listed : Wire.Node :=
  .node { uid := "pod", kind := "Pod", parentIds := ["web"], createdAt := "2025-01-01T00:00:00Z" } []

/-- With an empty uid of a parent beside the list, the pod has lost its parent. -/
theorem empty_parentId_hides_list :
    ¬ ∀ (w : Wire.Node) (place : List Nat) (field : OptionalText),
      node (w.fill place field) = node w := by
  intro same
  exact absurd (same listed [] .parentId) (by decide +kernel)

end Decode

end ResourceTree
