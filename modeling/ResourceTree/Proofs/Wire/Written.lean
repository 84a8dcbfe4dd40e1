import ResourceTree.Proofs.Json.Records
import ResourceTree.Proofs.Wire.Faults
import ResourceTree.Wire.Printer
import ResourceTree.Wire.Reader

/-!
# Wire records read back

Each record is taken for itself when the value that it is written as is read, in whatever form and
order of fields it is found. Fields that are left out come back as what stands for them, and the
value of a record is one that a text holds without loss.
-/

namespace ResourceTree.Wire
set_option autoImplicit false

open Json (Document Fields Placed Reader RecordShape Value)
open Json.Reader (Takes takes_text)
open Json.RecordShape (takes_reader)
open Json.Value (PlainItems PlainMembers)

attribute [local simp] List.lookup_append List.lookup_cons

/-! ## What the types of the fields hold of themselves -/

/-- A number of thirty-two bits. -/
def IsInt32 (n : Int) : Prop := -2147483648 ≤ n ∧ n ≤ 2147483647

instance (n : Int) : Decidable (IsInt32 n) := inferInstanceAs (Decidable (_ ∧ _))

/-- The numbers of a deployment are numbers of thirty-two bits. -/
structure Deployment.WellTyped (d : Deployment) : Prop where
  replicas : IsInt32 d.replicas
  ready : IsInt32 d.readyReplicas
  updated : IsInt32 d.updatedReplicas
  available : IsInt32 d.availableReplicas

/-- Numbers are of thirty-two bits, and dictionaries have each key once and in order. -/
structure Record.WellTyped (r : Record) : Prop where
  annotations : r.annotations.Sorted
  labels : r.labels.Sorted
  events : ∀ e ∈ r.events, IsInt32 e.count
  deployment : ∀ d ∈ r.deployment, d.WellTyped
  volumeClaim : ∀ c ∈ r.volumeClaim, c.capacity.Sorted

/-- Every record of the tree is well typed. -/
def Node.WellTyped (n : Node) : Prop := ∀ r ∈ n.records, r.WellTyped

instance (d : Deployment) : Decidable d.WellTyped :=
  decidable_of_iff (IsInt32 d.replicas ∧ IsInt32 d.readyReplicas ∧ IsInt32 d.updatedReplicas ∧
      IsInt32 d.availableReplicas)
    ⟨fun ⟨replicas, ready, updated, available⟩ => ⟨replicas, ready, updated, available⟩,
      fun ⟨replicas, ready, updated, available⟩ => ⟨replicas, ready, updated, available⟩⟩

instance (r : Record) : Decidable r.WellTyped :=
  decidable_of_iff (r.annotations.Sorted ∧ r.labels.Sorted ∧ (∀ e ∈ r.events, IsInt32 e.count) ∧
      (∀ d ∈ r.deployment, d.WellTyped) ∧ ∀ c ∈ r.volumeClaim, c.capacity.Sorted)
    ⟨fun ⟨annotations, labels, events, deployment, claim⟩ =>
        ⟨annotations, labels, events, deployment, claim⟩,
      fun ⟨annotations, labels, events, deployment, claim⟩ =>
        ⟨annotations, labels, events, deployment, claim⟩⟩

instance (n : Node) : Decidable n.WellTyped :=
  inferInstanceAs (Decidable (∀ r ∈ n.records, r.WellTyped))

/-! ## Optional members -/

section Members

variable {α : Type} (name key : String)

/-- A part that may be left out stands under its own name only. -/
@[simp] theorem lookup_optionalRecord (toValue : α → Value) (field : Option α) :
    (optionalRecord name toValue field).lookup key =
      if key = name then field.map toValue else none := by
  cases field with
  | none => simp [optionalRecord]
  | some a =>
    by_cases same : key = name
    · simp [optionalRecord, same]
    · simp [optionalRecord, same, beq_eq_false_iff_ne.2 same]

/-- A text that may be left out stands under its own name only. -/
@[simp] theorem lookup_optionalText (field : Option String) :
    (optionalText name field).lookup key = if key = name then field.map .text else none := by
  cases field with
  | none => simp [optionalText]
  | some s =>
    by_cases same : key = name
    · simp [optionalText, same]
    · simp [optionalText, same, beq_eq_false_iff_ne.2 same]

/-- A member that is left out where it is empty stands under its own name only. -/
@[simp] theorem lookup_unless (empty : Prop) [Decidable empty] (v : Value) :
    List.lookup key (if empty then [] else [(name, v)]) =
      if key = name then (if empty then none else some v) else none := by
  by_cases left : empty
  · simp [left]
  · by_cases same : key = name
    · simp [left, same]
    · simp [left, same, beq_eq_false_iff_ne.2 same]

/-- The keys are among the names, in their order and each at most once. -/
def Within (members : Members) (names : List String) : Prop :=
  (members.map Prod.fst).Sublist names

theorem Within.all (members : Members) : Within members (members.map Prod.fst) := .refl _

/-- Members in order of some names, then members in order of others. -/
theorem Within.append {front back : Members} {names more : List String} (first : Within front names)
    (second : Within back more) : Within (front ++ back) (names ++ more) := by
  rw [Within, List.map_append]
  exact List.Sublist.append first second

theorem within_record (toValue : α → Value) (field : Option α) :
    Within (optionalRecord name toValue field) [name] := by
  cases field with
  | none => exact List.nil_sublist _
  | some a => exact .refl _

theorem within_text (field : Option String) : Within (optionalText name field) [name] := by
  cases field with
  | none => exact List.nil_sublist _
  | some s => exact .refl _

end Members

/-! ## Plain values -/

section Plain

variable {α : Type}

/-- Members are plain if those in front and those behind are. -/
@[simp] theorem plainMembers_append {front back : Members} :
    PlainMembers (front ++ back) ↔ PlainMembers front ∧ PlainMembers back := by
  induction front with
  | nil => simp [PlainMembers]
  | cons m front ih => simp [PlainMembers, ih, and_assoc]

/-- A list is plain if each of its items is written plainly. -/
theorem plainItems_map {toValue : α → Value} {as : List α} :
    PlainItems (as.map toValue) ↔ ∀ a ∈ as, (toValue a).Plain := by
  induction as with
  | nil => simp [PlainItems]
  | cons a as ih => simp [PlainItems, ih]

@[simp] theorem plainMembers_optionalText (name : String) (field : Option String) :
    PlainMembers (optionalText name field) := by
  cases field with
  | none => trivial
  | some s => exact ⟨trivial, trivial⟩

theorem plainMembers_optionalRecord (name : String) {toValue : α → Value} {field : Option α}
    (each : ∀ a ∈ field, (toValue a).Plain) : PlainMembers (optionalRecord name toValue field) := by
  cases field with
  | none => trivial
  | some a => exact ⟨each a rfl, trivial⟩

@[simp] theorem plain_text (s : String) : (Value.text s).Plain := trivial

@[simp] theorem plain_bool (b : Bool) : (Value.bool b).Plain := trivial

@[simp] theorem plain_textList (items : List String) : (textList items).Plain :=
  plainItems_map.2 fun _ _ => trivial

/-- A number of thirty-two bits is written as a number that JSON keeps. -/
theorem plain_integer {n : Int} (bounds : IsInt32 n) : (integer n).Plain := by
  obtain ⟨low, high⟩ := bounds
  have words : Nat.pow 2 63 = 9223372036854775808 ∧ Nat.pow 2 64 = 18446744073709551616 := ⟨rfl, rfl⟩
  rw [integer, Value.Plain, words.1, words.2]
  omega

/-- A sorted dictionary is written without a repeated key. -/
theorem plain_textDictionary {d : Dictionary String} (sorted : d.Sorted) :
    (textDictionary d).Plain := by
  refine ⟨?_, ?_⟩
  · rw [List.map_map]
    exact sorted.nodup
  · induction d with
    | nil => trivial
    | cons e d ih => exact ⟨trivial, ih (List.pairwise_cons.1 sorted).2⟩

end Plain

/-! ## Parts of a record -/

/-- What is written is a value that a text holds without loss, and it is taken for the record. -/
structure Keeps {α : Type} (r : Reader α) (v : Value) (a : α) : Prop where
  plain : v.Plain
  takes : Takes r v a

/-- A record is kept if its members are in the order of its names and its fields are read back. -/
theorem keeps_reader {α : Type} {shape : RecordShape} (bare : shape.aliases = [])
    {build : Fields → Placed α} {members : Members} (within : Within members shape.names)
    (distinct : shape.names.Nodup) {a : α} (each : PlainMembers members)
    (built : ∀ s : Fields, s.Offers members → build s = .ok a) :
    Keeps (shape.reader build) (.object members) a :=
  ⟨⟨within.nodup distinct, each⟩, takes_reader bare within distinct built⟩

theorem takes_int32 {n : Int} (bounds : IsInt32 n) : Takes Reader.int32 (integer n) n :=
  Reader.takes_whole "i32" bounds.1 bounds.2

/-- A condition is read back from its object. -/
theorem keeps_condition (c : Condition) : Keeps Condition.read c.toValue c := by
  cases c
  refine keeps_reader rfl (.all _) (by decide) (by simp [PlainMembers]) fun s offers => ?_
  refine Placed.seq_ok ?_ (offers.text (by simp))
  refine Placed.seq_ok ?_ (offers.text (by simp))
  refine Placed.seq_ok ?_ (offers.required (by simp) (takes_text _))
  refine Placed.seq_ok ?_ (offers.required (by simp) (takes_text _))
  exact Placed.map_ok _ (offers.required (by simp) (takes_text _))

/-- An event is read back from its object. -/
theorem keeps_event (e : Event) (count : IsInt32 e.count) : Keeps Event.read e.toValue e := by
  cases e
  refine keeps_reader rfl (.all _) (by decide) (by simp [PlainMembers, plain_integer count])
    fun s offers => ?_
  refine Placed.seq_ok ?_ (offers.text (by simp))
  refine Placed.seq_ok ?_ (offers.withDefault (by simp) (takes_int32 count) _)
  refine Placed.seq_ok ?_ (offers.required (by simp) (takes_text _))
  refine Placed.seq_ok ?_ (offers.required (by simp) (takes_text _))
  refine Placed.seq_ok ?_ (offers.text (by simp))
  refine Placed.seq_ok ?_ (offers.text (by simp))
  refine Placed.seq_ok ?_ (offers.text (by simp))
  refine Placed.seq_ok ?_ (offers.text (by simp))
  refine Placed.seq_ok ?_ (offers.text (by simp))
  refine Placed.seq_ok ?_ (offers.text (by simp))
  refine Placed.seq_ok ?_ (offers.text (by simp))
  exact Placed.map_ok _ (offers.required (by simp) (takes_text _))

theorem keeps_sourceRef (r : SourceRef) : Keeps SourceRef.read r.toValue r := by
  cases r
  refine keeps_reader rfl ?_ (by decide) (by simp [PlainMembers]) fun s offers => ?_
  · exact Within.all _ |>.append (within_text _ _)
  refine Placed.seq_ok ?_ (offers.optionalText (by simp))
  refine Placed.seq_ok ?_ (offers.text (by simp))
  exact Placed.map_ok _ (offers.text (by simp))

theorem plain_sourceRef (name : String) (field : Option SourceRef) :
    PlainMembers (optionalRecord name SourceRef.toValue field) :=
  plainMembers_optionalRecord name fun r _ => (keeps_sourceRef r).plain

theorem keeps_flux (f : Flux) : Keeps Flux.read f.toValue f := by
  cases f
  refine keeps_reader rfl ?_ (by decide) (by simp [PlainMembers]) fun s offers => ?_
  · exact within_text _ _ |>.append (within_text _ _) |>.append (.all _)
  refine Placed.seq_ok ?_ (offers.flag (by simp))
  refine Placed.seq_ok ?_ (offers.flag (by simp))
  refine Placed.seq_ok ?_ (offers.optionalText (by simp))
  exact Placed.map_ok _ (offers.optionalText (by simp))

theorem keeps_kustomization (k : Kustomization) : Keeps Kustomization.read k.toValue k := by
  cases k
  refine keeps_reader rfl ?_ (by decide) (by simp [PlainMembers, plain_sourceRef])
    fun s offers => ?_
  · exact Within.all _ |>.append (within_record _ _ _) |>.append (.all _)
      |>.append (within_text _ _) |>.append (.all _)
  refine Placed.seq_ok ?_ (offers.textList (by simp [textList]))
  refine Placed.seq_ok ?_ (offers.optionalText (by simp))
  refine Placed.seq_ok ?_ (offers.text (by simp))
  refine Placed.seq_ok ?_ (offers.text (by simp))
  refine Placed.seq_ok ?_ (offers.optional (by simp) (fun r _ => (keeps_sourceRef r).takes) nofun)
  refine Placed.seq_ok ?_ (offers.flag (by simp))
  refine Placed.seq_ok ?_ (offers.flag (by simp))
  exact Placed.map_ok _ (offers.text (by simp))

theorem keeps_helmRelease (h : HelmRelease) : Keeps HelmRelease.read h.toValue h := by
  cases h
  refine keeps_reader rfl ?_ (by decide) (by simp [PlainMembers, plain_sourceRef])
    fun s offers => ?_
  · exact Within.all _ |>.append (within_record _ _ _)
  refine Placed.seq_ok ?_ (offers.optional (by simp) (fun r _ => (keeps_sourceRef r).takes) nofun)
  refine Placed.seq_ok ?_ (offers.flag (by simp))
  refine Placed.seq_ok ?_ (offers.flag (by simp))
  refine Placed.seq_ok ?_ (offers.text (by simp))
  exact Placed.map_ok _ (offers.text (by simp))

theorem keeps_gitRepository (g : GitRepository) : Keeps GitRepository.read g.toValue g := by
  cases g
  refine keeps_reader rfl ?_ (by decide) (by simp [PlainMembers]) fun s offers => ?_
  · exact Within.all _ |>.append (within_text _ _) |>.append (within_text _ _)
      |>.append (within_text _ _) |>.append (within_text _ _) |>.append (within_text _ _)
  refine Placed.seq_ok ?_ (offers.optionalText (by simp))
  refine Placed.seq_ok ?_ (offers.optionalText (by simp))
  refine Placed.seq_ok ?_ (offers.optionalText (by simp))
  refine Placed.seq_ok ?_ (offers.optionalText (by simp))
  refine Placed.seq_ok ?_ (offers.optionalText (by simp))
  exact Placed.map_ok _ (offers.text (by simp))

theorem keeps_ociRepository (o : OciRepository) : Keeps OciRepository.read o.toValue o := by
  cases o
  refine keeps_reader rfl ?_ (by decide) (by simp [PlainMembers]) fun s offers => ?_
  · exact Within.all _ |>.append (within_text _ _) |>.append (within_text _ _)
      |>.append (within_text _ _) |>.append (within_text _ _)
  refine Placed.seq_ok ?_ (offers.optionalText (by simp))
  refine Placed.seq_ok ?_ (offers.optionalText (by simp))
  refine Placed.seq_ok ?_ (offers.optionalText (by simp))
  refine Placed.seq_ok ?_ (offers.optionalText (by simp))
  exact Placed.map_ok _ (offers.text (by simp))

/-- A deployment is read back, since its numbers fit their fields. -/
theorem keeps_deployment (d : Deployment) (typed : d.WellTyped) :
    Keeps Deployment.read d.toValue d := by
  obtain ⟨replicas, ready, updated, available⟩ := typed
  cases d
  refine keeps_reader rfl (.all _) (by decide) ?_ fun s offers => ?_
  · simp [PlainMembers, plain_integer replicas, plain_integer ready, plain_integer updated,
      plain_integer available]
  refine Placed.seq_ok ?_ (offers.textList (by simp [textList]))
  refine Placed.seq_ok ?_ (offers.withDefault (by simp) (takes_int32 available) _)
  refine Placed.seq_ok ?_ (offers.withDefault (by simp) (takes_int32 updated) _)
  refine Placed.seq_ok ?_ (offers.withDefault (by simp) (takes_int32 ready) _)
  exact Placed.map_ok _ (offers.withDefault (by simp) (takes_int32 replicas) _)

theorem keeps_pod (p : Pod) : Keeps Pod.read p.toValue p := by
  cases p
  refine keeps_reader rfl (.all _) (by decide) (by simp [PlainMembers]) fun s offers => ?_
  refine Placed.seq_ok ?_ (offers.text (by simp))
  exact Placed.map_ok _ (offers.text (by simp))

/-- A claim is read back, since its capacities are in order. -/
theorem keeps_volumeClaim (c : VolumeClaim) (sorted : c.capacity.Sorted) :
    Keeps VolumeClaim.read c.toValue c := by
  cases c
  refine keeps_reader rfl (.all _) (by decide) (by simp [PlainMembers, plain_textDictionary sorted])
    fun s offers => ?_
  refine Placed.seq_ok ?_ (offers.text (by simp))
  refine Placed.seq_ok ?_ (offers.dictionary (by simp [textDictionary]) sorted takes_text)
  refine Placed.seq_ok ?_ (offers.textList (by simp [textList]))
  refine Placed.seq_ok ?_ (offers.text (by simp))
  refine Placed.seq_ok ?_ (offers.text (by simp))
  exact Placed.map_ok _ (offers.text (by simp))

/-! ## Node records -/

/-- The members of a node record with the given children. -/
def Record.members (r : Record) (children : List Value) : Members :=
  r.leading ++ [("children", .array children)] ++ r.trailing

/-- The members of a record stand in the order of the names that its reader lists. -/
theorem within_members (r : Record) (children : List Value) :
    Within (r.members children) Node.shape.names := by
  have leading : Within r.leading ["uid", "name", "kind", "version", "group", "resource",
      "namespace", "parentId", "parentIDs", "createdAt", "deletedAt", "annotations", "labels",
      "status", "conditions", "events", "isFluxManaged"] := by
    have parents : Within (if r.parentIds.isEmpty then [] else [("parentIDs", textList r.parentIds)])
        ["parentIDs"] := by
      split
      · exact List.nil_sublist _
      · exact .refl _
    exact Within.all _ |>.append (within_text _ _) |>.append (within_text _ _)
      |>.append (within_text _ _) |>.append (within_text _ _) |>.append (within_text _ _)
      |>.append parents |>.append (.all _) |>.append (within_text _ _) |>.append (.all _)
      |>.append (within_text _ _) |>.append (.all _)
  have trailing : Within r.trailing ["fluxMetadata", "kustomizationMetadata",
      "helmReleaseMetadata", "gitRepositoryMetadata", "ociRepositoryMetadata",
      "deploymentMetadata", "podMetadata", "pvcMetadata"] :=
    within_record _ _ _ |>.append (within_record _ _ _) |>.append (within_record _ _ _)
      |>.append (within_record _ _ _) |>.append (within_record _ _ _)
      |>.append (within_record _ _ _) |>.append (within_record _ _ _)
      |>.append (within_record _ _ _)
  exact leading.append (.all [("children", .array children)]) |>.append trailing

/-- Each field of a record is read back from the member it was written to. -/
theorem ofFields_ok (r : Record) (typed : r.WellTyped) (children : List Value) {s : Fields}
    (offers : s.Offers (r.members children)) : Record.ofFields s = .ok r := by
  obtain ⟨annotations, labels, events, deployment, volumeClaim⟩ := typed
  cases r
  simp only [Record.members, Record.leading, Record.trailing] at offers
  refine Placed.seq_ok ?_ (offers.optional (by simp)
    (fun c member => (keeps_volumeClaim c (volumeClaim c member)).takes) nofun)
  refine Placed.seq_ok ?_ (offers.optional (by simp) (fun p _ => (keeps_pod p).takes) nofun)
  refine Placed.seq_ok ?_ (offers.optional (by simp)
    (fun d member => (keeps_deployment d (deployment d member)).takes) nofun)
  refine Placed.seq_ok ?_ (offers.optional (by simp) (fun o _ => (keeps_ociRepository o).takes) nofun)
  refine Placed.seq_ok ?_ (offers.optional (by simp) (fun g _ => (keeps_gitRepository g).takes) nofun)
  refine Placed.seq_ok ?_ (offers.optional (by simp) (fun h _ => (keeps_helmRelease h).takes) nofun)
  refine Placed.seq_ok ?_ (offers.optional (by simp) (fun k _ => (keeps_kustomization k).takes) nofun)
  refine Placed.seq_ok ?_ (offers.optional (by simp) (fun f _ => (keeps_flux f).takes) nofun)
  refine Placed.seq_ok ?_ (offers.flag (by simp))
  refine Placed.seq_ok ?_ (offers.list (by simp)
    (Reader.forall₂_map fun e member => (keeps_event e (events e member)).takes))
  refine Placed.seq_ok ?_ (offers.list (by simp)
    (Reader.forall₂_map fun c _ => (keeps_condition c).takes))
  refine Placed.seq_ok ?_ (offers.optionalText (by simp))
  refine Placed.seq_ok ?_ (offers.dictionary (by simp [textDictionary]) labels takes_text)
  refine Placed.seq_ok ?_ (offers.dictionary (by simp [textDictionary]) annotations takes_text)
  refine Placed.seq_ok ?_ (offers.optionalText (by simp))
  refine Placed.seq_ok ?_ (offers.required (by simp) (takes_text _))
  refine Placed.seq_ok ?_ (offers.textListUnlessEmpty (by simp [textList]))
  refine Placed.seq_ok ?_ (offers.optionalText (by simp))
  refine Placed.seq_ok ?_ (offers.optionalText (by simp))
  refine Placed.seq_ok ?_ (offers.optionalText (by simp))
  refine Placed.seq_ok ?_ (offers.optionalText (by simp))
  refine Placed.seq_ok ?_ (offers.optionalText (by simp))
  refine Placed.seq_ok ?_ (offers.text (by simp))
  refine Placed.seq_ok ?_ (offers.text (by simp))
  exact Placed.map_ok _ (offers.required (by simp) (takes_text _))

/-- The children nest less deep than the record that lists them. -/
theorem depth_children_lt (r : Record) (children : List Value) :
    Document.depthItems (Document.ofItems children) + 1 <
      (Document.ofValue (.object (r.members children))).depth := by
  have member : ("children", Value.array children) ∈ r.members children := by
    simp [Record.members]
  have le := Document.depth_le_of_mem member
  simp only [Document.ofValue, Document.depth] at le ⊢
  omega

mutual

/-- The levels of a node reader suffice for a value that nests less deep. -/
theorem takes_levels (n : Node) (typed : ∀ r ∈ n.records, r.WellTyped) {levels : Nat}
    (deep : (Document.ofValue n.toValue).depth < levels) :
    Takes (Node.readLevels levels) n.toValue n := by
  match n, levels with
  | .node r cs, levels + 1 =>
    have lt := depth_children_lt r (Node.toValues cs)
    have below : Document.depthItems (Document.ofItems (Node.toValues cs)) < levels := by
      rw [Node.toValue] at deep
      change (Document.ofValue (.object (r.members (Node.toValues cs)))).depth < levels + 1 at deep
      omega
    have children := takes_levels_all cs
      (fun r' member => typed r' (List.mem_cons_of_mem _ member)) below
    refine takes_reader rfl (within_members r (Node.toValues cs)) (by decide) fun s offers => ?_
    refine Placed.seq_ok ?_ (offers.list (by simp [Record.members, Record.leading]) children)
    exact Placed.map_ok _ (ofFields_ok r (typed r List.mem_cons_self) _ offers)

theorem takes_levels_all (ns : List Node) (typed : ∀ r ∈ Node.recordsAll ns, r.WellTyped)
    {levels : Nat} (deep : Document.depthItems (Document.ofItems (Node.toValues ns)) < levels) :
    List.Forall₂ (Takes (Node.readLevels levels)) (Node.toValues ns) ns := by
  match ns with
  | [] => exact .nil
  | n :: ns =>
    rw [Node.toValues, Document.ofItems, Document.depthItems] at deep
    exact .cons
      (takes_levels n (fun r member => typed r (List.mem_append_left _ member)) (by omega))
      (takes_levels_all ns (fun r member => typed r (List.mem_append_right _ member)) (by omega))

end

/-- The members of a record are plain if its children are. -/
theorem plain_members (r : Record) (typed : r.WellTyped) {children : List Value}
    (plain : PlainItems children) : PlainMembers (r.members children) := by
  obtain ⟨annotations, labels, events, deployment, volumeClaim⟩ := typed
  have conditions : (Value.array (r.conditions.map Condition.toValue)).Plain :=
    plainItems_map.2 fun c _ => (keeps_condition c).plain
  have events : (Value.array (r.events.map Event.toValue)).Plain :=
    plainItems_map.2 fun e member => (keeps_event e (events e member)).plain
  have parents : PlainMembers
      (if r.parentIds.isEmpty then [] else [("parentIDs", textList r.parentIds)]) := by
    split
    · trivial
    · exact ⟨plain_textList _, trivial⟩
  have leading : PlainMembers r.leading := by
    simp only [Record.leading, plainMembers_append, plainMembers_optionalText, parents, conditions,
      events, PlainMembers, plain_text, plain_bool, plain_textDictionary annotations,
      plain_textDictionary labels, and_self]
  have trailing : PlainMembers r.trailing := by
    simp only [Record.trailing, plainMembers_append]
    refine ⟨⟨⟨⟨⟨⟨⟨?flux, ?kustomization⟩, ?helm⟩, ?git⟩, ?oci⟩, ?deployment⟩, ?pod⟩, ?claim⟩
    case flux => exact plainMembers_optionalRecord _ fun f _ => (keeps_flux f).plain
    case kustomization => exact plainMembers_optionalRecord _ fun k _ => (keeps_kustomization k).plain
    case helm => exact plainMembers_optionalRecord _ fun h _ => (keeps_helmRelease h).plain
    case git => exact plainMembers_optionalRecord _ fun g _ => (keeps_gitRepository g).plain
    case oci => exact plainMembers_optionalRecord _ fun o _ => (keeps_ociRepository o).plain
    case deployment =>
      exact plainMembers_optionalRecord _ fun d member =>
        (keeps_deployment d (deployment d member)).plain
    case pod => exact plainMembers_optionalRecord _ fun p _ => (keeps_pod p).plain
    case claim =>
      exact plainMembers_optionalRecord _ fun c member =>
        (keeps_volumeClaim c (volumeClaim c member)).plain
  exact plainMembers_append.2 ⟨plainMembers_append.2 ⟨leading, plain, trivial⟩, trailing⟩

mutual

/-- A node record is written plainly, with all that stands below it. -/
theorem plain_toValue (n : Node) (typed : ∀ r ∈ n.records, r.WellTyped) : n.toValue.Plain := by
  match n with
  | .node r cs =>
    have children := plain_toValues cs fun r' member => typed r' (List.mem_cons_of_mem _ member)
    exact ⟨(within_members r _).nodup (by decide),
      plain_members r (typed r List.mem_cons_self) children⟩

theorem plain_toValues (ns : List Node) (typed : ∀ r ∈ Node.recordsAll ns, r.WellTyped) :
    PlainItems (Node.toValues ns) := by
  match ns with
  | [] => trivial
  | n :: ns =>
    exact ⟨plain_toValue n fun r member => typed r (List.mem_append_left _ member),
      plain_toValues ns fun r member => typed r (List.mem_append_right _ member)⟩

end

/-- A node record is read back from everything that holds it. -/
theorem keeps_node (n : Node) (typed : n.WellTyped) : Keeps Node.read n.toValue n where
  plain := plain_toValue n typed
  takes d holds := takes_levels n typed (by rw [← holds.depth_eq]; exact Nat.lt_succ_self _) d holds

end ResourceTree.Wire
