import Mathlib.Data.List.Nodup
import ResourceTree.Proofs.Json.Readers

/-!
# What record readers make of an object

The object of a record offers each field under its name, wherever it stands. A record whose fields
are each taken for what they were written from is taken for the record that was written.
-/

namespace ResourceTree.Json
set_option autoImplicit false

open Document (HoldsMember HoldsMembers)
open Reader (Takes)

variable {α : Type}

/-- The members by name: what is written under a name is found, and nothing else is. -/
def Fields.Offers (s : Fields) (members : List (String × Value)) : Prop :=
  ∀ name, match members.lookup name with
    | some v => ∃ place d, s.find name = some (place, d) ∧ d.Holds v
    | none => s.find name = none

namespace Placed

variable {β : Type}

theorem map_ok (f : α → β) {x : Placed α} {a : α} (done : x = .ok a) : f <$> x = .ok (f a) := by
  rw [done]
  rfl

theorem seq_ok {g : Placed (α → β)} {f : α → β} (before : g = .ok f) {x : Placed α} {a : α}
    (done : x = .ok a) : g <*> x = .ok (f a) := by
  rw [before, done]
  rfl

end Placed

namespace Fields.Offers

variable {s : Fields} {members : List (String × Value)} {name : String} {r : Reader α} {v : Value}
  {a : α}

/-- What is written under a name is found under it. -/
theorem present (offers : s.Offers members) (found : members.lookup name = some v) :
    ∃ place d, s.find name = some (place, d) ∧ d.Holds v := by
  have offer := offers name
  rwa [found] at offer

/-- What is not written is not found. -/
theorem absent (offers : s.Offers members) (missing : members.lookup name = none) :
    s.find name = none := by
  have offer := offers name
  rwa [missing] at offer

/-- A field that is written is read. -/
theorem required (offers : s.Offers members) (found : members.lookup name = some v)
    (takes : Takes r v a) : s.required name r = .ok a := by
  obtain ⟨place, d, at', holds⟩ := offers.present found
  simp only [Fields.required, at', readAt, takes d holds]

/-- A field that is written is read, whatever the default. -/
theorem withDefault (offers : s.Offers members) (found : members.lookup name = some v)
    (takes : Takes r v a) (default : α) : s.withDefault name r default = .ok a := by
  obtain ⟨place, d, at', holds⟩ := offers.present found
  simp only [Fields.withDefault, at', readAt, takes d holds]

/-- A field that is not written has its default. -/
theorem withDefault_absent (offers : s.Offers members) (missing : members.lookup name = none)
    (r : Reader α) (default : α) : s.withDefault name r default = .ok default := by
  simp only [Fields.withDefault, offers.absent missing]

theorem text {x : String} (offers : s.Offers members)
    (found : members.lookup name = some (.text x)) : s.text name = .ok x :=
  offers.withDefault found (Reader.takes_text x) _

theorem flag {b : Bool} (offers : s.Offers members)
    (found : members.lookup name = some (.bool b)) : s.flag name = .ok b :=
  offers.withDefault found (Reader.takes_flag b) _

/-- A field that is left out where there is nothing. -/
theorem optional {field : Option α} {toValue : α → Value} (offers : s.Offers members)
    (found : members.lookup name = field.map toValue)
    (takes : ∀ a ∈ field, Takes r (toValue a) a) (filled : ∀ a, toValue a ≠ .null) :
    s.optional name r = .ok field := by
  cases field with
  | none => exact offers.withDefault_absent found _ _
  | some a => exact offers.withDefault found (Reader.takes_optional (takes a rfl) (filled a)) _

/-- A text that is left out where there is nothing. -/
theorem optionalText {field : Option String} (offers : s.Offers members)
    (found : members.lookup name = field.map .text) : s.optional name Reader.text = .ok field :=
  offers.optional found (fun x _ => Reader.takes_text x) nofun

/-- A list that is written is read item by item. -/
theorem list {vs : List Value} {as : List α} (offers : s.Offers members)
    (found : members.lookup name = some (.array vs)) (each : List.Forall₂ (Takes r) vs as) :
    s.list name r = .ok as := by
  refine offers.withDefault found (fun d holds => ?_) _
  rw [Reader.takes_optional (Reader.takes_list each) (fun same => by cases same) d holds]
  rfl

theorem textList {items : List String} (offers : s.Offers members)
    (found : members.lookup name = some (.array (items.map .text))) :
    s.list name Reader.text = .ok items :=
  offers.list found (Reader.forall₂_map fun x _ => Reader.takes_text x)

/-- A list that is left out where it is empty. -/
theorem textListUnlessEmpty {items : List String} (offers : s.Offers members)
    (found : members.lookup name =
      if items.isEmpty then none else some (.array (items.map .text))) :
    s.list name Reader.text = .ok items := by
  cases items with
  | nil => exact offers.withDefault_absent found _ _
  | cons x items => exact offers.textList found

/-- A sorted dictionary that is written is read back. -/
theorem dictionary {d : Dictionary α} {toValue : α → Value} (offers : s.Offers members)
    (found : members.lookup name = some (.object (d.map fun e => (e.1, toValue e.2))))
    (sorted : d.Sorted) (each : ∀ a, Takes r (toValue a) a) : s.dictionary name r = .ok d := by
  refine offers.withDefault found (fun document holds => ?_) _
  rw [Reader.takes_optional (Reader.takes_dictionary sorted each) (fun same => by cases same)
    document holds]
  rfl

end Fields.Offers

namespace RecordShape

variable {shape : RecordShape} {name : String}

theorem canonical_eq (bare : shape.aliases = []) (key : String) : shape.canonical key = key := by
  rw [canonical, bare]
  rfl

/-- The first member under a name is the first that a list of members has under it. -/
theorem member?_spec (bare : shape.aliases = []) (place : Nat) {members : List (String × Value)}
    {found : List (Except Fault String × Document)} (held : List.Forall₂ HoldsMember found members) :
    match members.lookup name with
    | some v => ∃ at' d, shape.member? name place found = some (at', d) ∧ d.Holds v
    | none => shape.member? name place found = none := by
  induction held generalizing place with
  | nil => rfl
  | @cons member entry found members head _ ih =>
    obtain ⟨key, d⟩ := member
    obtain ⟨k, v⟩ := entry
    obtain ⟨rfl, holds⟩ := head
    rw [member?, canonical_eq bare, List.lookup_cons]
    by_cases same : k = name
    · subst same
      simp only [beq_self_eq_true, if_true]
      exact ⟨place, d, rfl, holds⟩
    · have other : (name == k) = false := beq_eq_false_iff_ne.2 (Ne.symm same)
      simp only [other, if_neg same]
      exact ih (place + 1)

/-- With different keys, the order of the members does not change what is found under a key. -/
theorem lookup_perm {found members : List (String × Value)} (perm : found.Perm members)
    (distinct : (members.map Prod.fst).Nodup) : found.lookup name = members.lookup name := by
  induction perm with
  | nil => rfl
  | cons m _ ih =>
    rw [List.lookup_cons, List.lookup_cons, ih (List.nodup_cons.1 distinct).2]
  | swap m m' rest =>
    obtain ⟨k, v⟩ := m
    obtain ⟨k', v'⟩ := m'
    have other : k ≠ k' := by
      rintro rfl
      exact (List.nodup_cons.1 distinct).1 List.mem_cons_self
    simp only [List.lookup_cons]
    by_cases here : name = k
    · subst here
      simp only [beq_self_eq_true, beq_eq_false_iff_ne.2 other]
    · simp only [beq_eq_false_iff_ne.2 here]
  | trans _ second ih ih' =>
    rw [ih ((second.map Prod.fst).nodup_iff.2 distinct), ih' distinct]

/-- An object that holds the members offers them, in whatever order it has them. -/
theorem offers_ofMembers (bare : shape.aliases = []) {members : List (String × Value)}
    {found order : List (Except Fault String × Document)} (distinct : (members.map Prod.fst).Nodup)
    (perm : found.Perm order) (held : HoldsMembers order members) :
    (shape.ofMembers found).Offers members := by
  obtain ⟨members', held', perm'⟩ :=
    List.perm_comp_forall₂ perm (Document.holdsMembers_iff.1 held)
  intro name
  rw [← lookup_perm perm' distinct]
  exact member?_spec bare 0 held'

/-- Nothing lies outside the fields of an object that has each of them at most once. -/
theorem strayFault_eq_none (bare : shape.aliases = []) {e : Ending} (sound : e.Sound) (place : Nat)
    {seen : List String} {members : List (String × Value)}
    {found : List (Except Fault String × Document)} (held : List.Forall₂ HoldsMember found members)
    (named : ∀ key ∈ members.map Prod.fst, key ∈ shape.names)
    (distinct : (members.map Prod.fst ++ seen).Nodup) :
    shape.strayFault e place seen found = none := by
  induction held generalizing place seen with
  | nil =>
    cases e with
    | broken b => exact absurd sound id
    | closed => rfl
    | whole => rfl
  | @cons member entry found members head _ ih =>
    obtain ⟨key, d⟩ := member
    obtain ⟨k, v⟩ := entry
    obtain ⟨rfl, -⟩ := head
    rw [List.map_cons, List.cons_append] at distinct
    have here : shape.names.contains k = true :=
      List.contains_iff_mem.2 (named k List.mem_cons_self)
    have fresh : seen.contains k = false := by
      rw [← Bool.not_eq_true, List.contains_iff_mem]
      exact fun member => (List.nodup_cons.1 distinct).1 (List.mem_append_right _ member)
    have rest : (members.map Prod.fst ++ k :: seen).Nodup :=
      (List.perm_middle.nodup_iff).2 distinct
    simp only [strayFault, canonical_eq bare, here, fresh, if_true, Bool.false_eq_true, if_false]
    exact ih (place + 1) (fun key member => named key (List.mem_cons_of_mem _ member)) rest

/-- A record is taken for what its fields are built into. Every key is that of a field, in the order
in which the fields are listed. -/
theorem takes_reader (bare : shape.aliases = []) {build : Fields → Placed α}
    {members : List (String × Value)} (named : (members.map Prod.fst).Sublist shape.names)
    (distinct : shape.names.Nodup) {a : α}
    (built : ∀ s : Fields, s.Offers members → build s = .ok a) :
    Takes (shape.reader build) (.object members) a := by
  intro d holds
  have keys : (members.map Prod.fst).Nodup := named.nodup distinct
  cases holds with
  | @object found order _ e sound perm held =>
    obtain ⟨members', held', perm'⟩ :=
      List.perm_comp_forall₂ perm (Document.holdsMembers_iff.1 held)
    have keys' := perm'.map Prod.fst
    have straight : shape.strayFault e 0 [] found = none := by
      refine strayFault_eq_none bare sound 0 held' (fun key member => ?_) ?_
      · exact named.subset (keys'.mem_iff.1 member)
      · rw [List.append_nil]
        exact keys'.nodup_iff.2 keys
    have whole := built _ (offers_ofMembers bare keys perm held)
    rw [reader, if_neg Bool.false_ne_true, whole, straight]
    rfl

end RecordShape

end ResourceTree.Json
