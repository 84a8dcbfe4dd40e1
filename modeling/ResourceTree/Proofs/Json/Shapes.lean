import ResourceTree.Proofs.Json.Fair
import ResourceTree.Proofs.Json.Records

/-!
# Records are read fairly

A record reader asks for its fields one by one and passes over every other member. So it has seen all
of a record that it takes, if there is a field for each of the names of its shape; and a shape with
more names sees no less of an object than one with fewer. What it takes a record for is built from what
the fields were taken for, so that it has what their readers make sure of.
-/

namespace ResourceTree.Json
set_option autoImplicit false

open Text (Unbroken unbroken_nat)

/-! ## Results with a place -/

namespace Placed

variable {α β : Type}

theorem map_eq_ok {f : α → β} {x : Placed α} {b : β} :
    f <$> x = .ok b ↔ ∃ a, x = .ok a ∧ f a = b := by
  cases x with
  | ok a =>
    exact ⟨fun h => ⟨a, rfl, Placed.ok.inj h⟩, fun ⟨a', h, h'⟩ => by cases h; rw [← h']; rfl⟩
  | fault place f => exact ⟨fun h => (by cases h), fun ⟨_, h, _⟩ => (by cases h)⟩

theorem map_eq_fault {f : α → β} {x : Placed α} {place : Nat} {why : Fault}
    (h : f <$> x = .fault place why) : x = .fault place why := by
  cases x with
  | ok a => cases h
  | fault place f => cases h; rfl

/-- Two parts come to a result if both of them do. -/
theorem seq_eq_ok {g : Placed (α → β)} {x : Placed α} {b : β} :
    g <*> x = .ok b ↔ ∃ f a, g = .ok f ∧ x = .ok a ∧ f a = b := by
  cases g with
  | fault place f =>
    cases x with
    | ok a => exact ⟨fun h => (by cases h), fun ⟨_, _, h, _⟩ => (by cases h)⟩
    | fault place' f' =>
      refine ⟨fun h => ?_, fun ⟨_, _, h, _⟩ => (by cases h)⟩
      simp only [Seq.seq, seq] at h
      split at h <;> cases h
  | ok f =>
    cases x with
    | ok a =>
      exact ⟨fun h => ⟨f, a, rfl, rfl, Placed.ok.inj h⟩,
        fun ⟨_, _, h, h', h''⟩ => by cases h; cases h'; rw [← h'']; rfl⟩
    | fault place f => exact ⟨fun h => (by cases h), fun ⟨_, _, _, h, _⟩ => (by cases h)⟩

/-- A fault of two results is a fault of one of them. -/
theorem seq_eq_fault {g : Placed (α → β)} {x : Placed α} {place : Nat} {why : Fault}
    (h : g <*> x = .fault place why) : g = .fault place why ∨ x = .fault place why := by
  cases g with
  | ok f =>
    cases x with
    | ok a => cases h
    | fault place f => cases h; exact .inr rfl
  | fault place f =>
    cases x with
    | ok a => cases h; exact .inl rfl
    | fault place' f' =>
      simp only [Seq.seq, seq] at h
      split at h
      · cases h; exact .inr rfl
      · cases h; exact .inl rfl

/-- A record is taken if nothing lies outside its fields and it is built from them. -/
theorem toExcept_guard_eq_ok {earlier : Option (Nat × Fault)} {x : Placed α} {a : α} :
    (x.guard earlier).toExcept = .ok a ↔ earlier = none ∧ x = .ok a := by
  cases x with
  | ok a' =>
    cases earlier with
    | none => exact ⟨fun h => ⟨rfl, by cases h; rfl⟩, fun ⟨_, h⟩ => by cases h; rfl⟩
    | some e => exact ⟨fun h => (by cases h), fun ⟨h, _⟩ => (by cases h)⟩
  | fault place f =>
    refine ⟨fun h => ?_, fun ⟨_, h⟩ => (by cases h)⟩
    unfold guard at h
    cases earlier with
    | none => cases h
    | some e =>
      simp only at h
      split at h <;> cases h

/-- A record is refused for what lies outside its fields or for what it is built from. -/
theorem toExcept_guard_eq_error {earlier : Option (Nat × Fault)} {x : Placed α} {f : Fault}
    (h : (x.guard earlier).toExcept = .error f) :
    (∃ place, earlier = some (place, f)) ∨ ∃ place, x = .fault place f := by
  unfold guard at h
  cases x with
  | ok a =>
    cases earlier with
    | none => cases h
    | some e => cases h; exact .inl ⟨_, rfl⟩
  | fault place why =>
    cases earlier with
    | none => cases h; exact .inr ⟨_, rfl⟩
    | some e =>
      simp only at h
      split at h
      · cases h; exact .inl ⟨_, rfl⟩
      · cases h; exact .inr ⟨_, rfl⟩

end Placed

/-! ## Fields -/

namespace Fields

variable {α β : Type} {s : Fields} {name : String} {names more : List String} {r : Reader α}

/-- The fields hold no fault in more than one line, and miss none in more than one line. -/
structure Clean (s : Fields) : Prop where
  found : ∀ {name place d}, s.find name = some (place, d) → d.Clean
  absent : ∀ {name}, Unbroken name → (s.absent name).Clean

/-- What is read from the fields of these names is read fairly. -/
structure Reads (s : Fields) (names : List String) (x : Placed α) : Prop where
  whole : ∀ {a}, x = .ok a → ∀ name ∈ names, ∀ place d, s.find name = some (place, d) →
    d.skipFault = none
  clean : s.Clean → ∀ {place f}, x = .fault place f → f.Clean

theorem readAt_eq_ok {place : Nat} {d : Document} {a : α} (h : readAt r place d = .ok a) :
    r d = .ok a := by
  unfold readAt at h
  split at h
  · cases h; assumption
  · cases h

theorem readAt_eq_fault {place place' : Nat} {d : Document} {f : Fault}
    (h : readAt r place d = .fault place' f) : r d = .error f := by
  unfold readAt at h
  split at h
  · cases h
  · cases h; assumption

/-- A field whose reader is fair, whatever stands for it where it is absent. -/
theorem reads_of_find {x : Placed α} (fair : r.Fair)
    (present : ∀ place d, s.find name = some (place, d) → x = readAt r place d)
    (absent : s.Clean → ∀ place f, s.find name = none → x = .fault place f → f.Clean) :
    s.Reads [name] x where
  whole {a} h := by
    refine List.forall_mem_singleton.2 fun place d found => ?_
    rw [present place d found] at h
    exact fair.whole (readAt_eq_ok h)
  clean clean {place f} h := by
    cases found : s.find name with
    | none => exact absent clean place f found h
    | some entry =>
      obtain ⟨place', d⟩ := entry
      rw [present place' d found] at h
      exact fair.clean (clean.found found) f (readAt_eq_fault h)

/-- A field that must be there is read fairly. -/
theorem reads_required (fair : r.Fair) (plain : Unbroken name) :
    s.Reads [name] (s.required name r) := by
  refine reads_of_find fair (fun place d found => ?_) fun clean place f missing h => ?_
  · simp only [required, found]
  · simp only [required, missing, Placed.fault.injEq] at h
    rw [← h.2]
    exact clean.absent plain

/-- A field with a default is read fairly. -/
theorem reads_withDefault (fair : r.Fair) (default : α) :
    s.Reads [name] (s.withDefault name r default) := by
  refine reads_of_find fair (fun place d found => ?_) fun clean place f missing h => ?_
  · simp only [withDefault, found]
  · simp only [withDefault, missing] at h
    cases h

theorem reads_optional (fair : r.Fair) : s.Reads [name] (s.optional name r) :=
  reads_withDefault fair.optional none

theorem reads_text : s.Reads [name] (s.text name) := reads_withDefault Reader.fair_text ""

theorem reads_flag : s.Reads [name] (s.flag name) := reads_withDefault Reader.fair_flag false

/-- A list that may be absent is read fairly. -/
theorem reads_list (fair : r.Fair) : s.Reads [name] (s.list name r) :=
  reads_withDefault (fair.list.optional.map _) []

/-- A dictionary that may be absent is read fairly. -/
theorem reads_dictionary (fair : r.Fair) : s.Reads [name] (s.dictionary name r) :=
  reads_withDefault (fair.dictionary.optional.map _) []

/-- What is made of fairly read fields is read as fairly. -/
theorem Reads.map {x : Placed α} (reads : s.Reads names x) (g : α → β) :
    s.Reads names (g <$> x) where
  whole h := by
    obtain ⟨a, done, -⟩ := Placed.map_eq_ok.1 h
    exact reads.whole done
  clean clean _ _ h := reads.clean clean (Placed.map_eq_fault h)

/-- Two groups of fields, each of which is read fairly. -/
theorem Reads.seq {g : Placed (α → β)} {x : Placed α} (first : s.Reads names g)
    (second : s.Reads more x) : s.Reads (names ++ more) (g <*> x) where
  whole h := by
    obtain ⟨f, a, before, done, -⟩ := Placed.seq_eq_ok.1 h
    exact List.forall_mem_append.2 ⟨first.whole before, second.whole done⟩
  clean clean _ _ h := by
    rcases Placed.seq_eq_fault h with h | h
    · exact first.clean clean h
    · exact second.clean clean h

/-- What is read from fields is read from some of them. -/
theorem Reads.mono {x : Placed α} (reads : s.Reads more x) (some : ∀ name ∈ names, name ∈ more) :
    s.Reads names x where
  whole h name member := reads.whole h name (some name member)
  clean := reads.clean

end Fields

/-! ## Shapes -/

namespace RecordShape

variable {α : Type} {shape : RecordShape} {e : Ending} {name : String}

/-- The names of a shape differ, and they and the title stand on one line. -/
structure Proper (shape : RecordShape) : Prop where
  distinct : shape.names.Nodup
  plain : ∀ name ∈ shape.names, Unbroken name
  title : Unbroken shape.title

instance (shape : RecordShape) : Decidable shape.Proper :=
  decidable_of_iff (shape.names.Nodup ∧ (∀ name ∈ shape.names, Unbroken name) ∧ Unbroken shape.title)
    ⟨fun ⟨distinct, plain, title⟩ => ⟨distinct, plain, title⟩,
      fun ⟨distinct, plain, title⟩ => ⟨distinct, plain, title⟩⟩

/-- The document of a field is that of a member. -/
theorem mem_of_member? {place at' : Nat} {members : List (Except Fault String × Document)}
    {d : Document} (h : shape.member? name place members = some (at', d)) :
    ∃ m ∈ members, m.2 = d := by
  induction members generalizing place with
  | nil => cases h
  | cons m members ih =>
    have later : shape.member? name (place + 1) members = some (at', d) →
        ∃ m' ∈ m :: members, m'.2 = d := fun h =>
      have ⟨m', member, same⟩ := ih h
      ⟨m', List.mem_cons_of_mem _ member, same⟩
    obtain ⟨key, d'⟩ := m
    cases key with
    | error f => exact later h
    | ok key =>
      rw [member?] at h
      split at h
      · cases h
        exact ⟨_, List.mem_cons_self, rfl⟩
      · exact later h

/-- A member is a field that is met for the first time, or it is passed over. -/
theorem strayFault_cons_eq_none {place : Nat} {seen : List String} {key : String} {d : Document}
    {members : List (Except Fault String × Document)} :
    shape.strayFault e place seen ((.ok key, d) :: members) = none ↔
      (shape.canonical key ∈ shape.names ∧ shape.canonical key ∉ seen ∧
        shape.strayFault e (place + 1) (shape.canonical key :: seen) members = none) ∨
      (shape.canonical key ∉ shape.names ∧ d.skipFault = none ∧
        shape.strayFault e (place + 1) seen members = none) := by
  rw [strayFault]
  by_cases named : shape.canonical key ∈ shape.names
  · by_cases again : shape.canonical key ∈ seen
    · simp [named, again]
    · simp [named, again]
  · cases passed : d.skipFault with
    | none => simp [named]
    | some f => simp [named]

/-- An object without a stray fault, each of whose fields can be passed over, can be passed over. -/
theorem sound_of_strayFault {place : Nat} {seen : List String}
    {members : List (Except Fault String × Document)}
    (straight : shape.strayFault e place seen members = none)
    (fields : ∀ name ∈ shape.names, name ∉ seen → ∀ at' d,
      shape.member? name place members = some (at', d) → d.skipFault = none) :
    e.Sound ∧ ∀ m ∈ members, m.2.skipFault = none := by
  induction members generalizing place seen with
  | nil =>
    refine ⟨?_, List.forall_mem_nil _⟩
    cases e with
    | broken b => cases straight
    | closed | whole => trivial
  | cons m members ih =>
    obtain ⟨key, d⟩ := m
    cases key with
    | error f => cases straight
    | ok key =>
      simp only [member?] at fields
      rcases strayFault_cons_eq_none.1 straight with ⟨named, fresh, later⟩ | ⟨other, passed, later⟩
      -- a member met for the first time is the one that its field finds
      · have here : d.skipFault = none := fields _ named fresh place d (by rw [if_pos rfl])
        obtain ⟨sound, each⟩ := ih later fun name member new at' d' found => by
          obtain ⟨different, new⟩ := not_or.1 (mt List.mem_cons.2 new)
          exact fields name member new at' d' (by rw [if_neg (Ne.symm different), found])
        exact ⟨sound, List.forall_mem_cons.2 ⟨here, each⟩⟩
      · obtain ⟨sound, each⟩ := ih later fun name member new at' d' found => by
          have different : shape.canonical key ≠ name := fun same => other (same ▸ member)
          exact fields name member new at' d' (by rw [if_neg different, found])
        exact ⟨sound, List.forall_mem_cons.2 ⟨passed, each⟩⟩

/-- Keys, passed members, repeated fields and the ending are refused on one line. -/
theorem clean_strayFault (proper : shape.Proper) {place : Nat} {seen : List String}
    {members : List (Except Fault String × Document)} (keys : ∀ m ∈ members, CleanIn m.1)
    (each : ∀ m ∈ members, m.2.Clean) (last : e.Clean) {at' : Nat} {f : Fault}
    (h : shape.strayFault e place seen members = some (at', f)) : f.Clean := by
  induction members generalizing place seen with
  | nil =>
    cases e with
    | broken b => cases h; exact last.read
    | closed | whole => cases h
  | cons m members ih =>
    obtain ⟨first, otherKeys⟩ := List.forall_mem_cons.1 keys
    obtain ⟨here, others⟩ := List.forall_mem_cons.1 each
    obtain ⟨key, d⟩ := m
    cases key with
    | error f => cases h; exact first f rfl
    | ok key =>
      simp only [strayFault] at h
      split at h
      · next named =>
        split at h
        · cases h
          exact Fault.clean_duplicateField (proper.plain _ (List.contains_iff_mem.1 named))
        · exact ih otherKeys others h
      · split at h
        · next broken => cases h; exact here.skip broken
        · exact ih otherKeys others h

/-- An array without a surplus ends with its last field. -/
theorem sound_of_surplusFault {items : List Document} (none' : shape.surplusFault items e = none) :
    e.Sound ∧ items.length ≤ shape.names.length := by
  unfold surplusFault at none'
  simp only at none'
  split at none'
  · next few =>
    refine ⟨?_, few.le⟩
    cases e with
    | broken b => cases none'
    | closed | whole => trivial
  · cases e with
    | whole =>
      simp only at none'
      split at none'
      · next all => exact ⟨trivial, all.le⟩
      · cases none'
    | closed =>
      simp only at none'
      split at none'
      · next all => exact ⟨trivial, all.le⟩
      · cases none'
    | broken b =>
      simp only at none'
      split at none'
      · split at none' <;> cases none'
      · cases none'

/-- An array with too few items or too many is refused on one line. -/
theorem clean_surplusFault {items : List Document} (last : e.Clean) {place : Nat} {f : Fault}
    (h : shape.surplusFault items e = some (place, f)) : f.Clean := by
  unfold surplusFault at h
  simp only at h
  split at h
  · cases e with
    | broken b => cases h; exact last.read
    | closed | whole => cases h
  · cases e with
    | whole =>
      simp only at h
      split at h
      · cases h
      · cases h; exact Fault.clean_wrongLength _ (by decide)
    | closed =>
      simp only at h
      split at h
      · cases h
      · cases h; exact Fault.clean_of_isSyntax rfl
    | broken b =>
      simp only at h
      split at h
      · split at h <;> (cases h; exact Fault.clean_of_isSyntax rfl)
      · cases h; exact Fault.clean_of_isSyntax rfl

/-- The fields of an object are refused on one line if its members are. -/
theorem clean_ofMembers {members : List (Except Fault String × Document)}
    (each : ∀ m ∈ members, m.2.Clean) : (shape.ofMembers members).Clean where
  found h := by
    obtain ⟨m, member, rfl⟩ := mem_of_member? h
    exact each m member
  absent plain := Fault.clean_missingField plain

/-- A field of an array is the item at the place of its name. -/
theorem find_ofItems {items : List Document} {place : Nat} {d : Document} :
    (shape.ofItems items).find name = some (place, d) ↔
      shape.names.idxOf name = place ∧ items[place]? = some d := by
  simp only [ofItems, Option.bind_eq_bind, Option.bind_eq_some_iff, Option.pure_def,
    Option.some.injEq, Prod.mk.injEq]
  constructor
  · rintro ⟨d', found, rfl, rfl⟩
    exact ⟨rfl, found⟩
  · rintro ⟨rfl, found⟩
    exact ⟨d, found, rfl, rfl⟩

/-- The fields of an array are refused on one line if its items are. -/
theorem clean_ofItems (proper : shape.Proper) {items : List Document}
    (each : ∀ d ∈ items, d.Clean) : (shape.ofItems items).Clean where
  found h := each _ (List.mem_of_getElem? (find_ofItems.1 h).2)
  absent {name} _ := by
    have title := Unbroken.append (by decide : Unbroken "struct ") proper.title
    exact Fault.clean_wrongLength _
      (.append (.append (title.append (by decide)) (unbroken_nat _)) (by decide))

/-- A record with a field for each name of its shape is read fairly. -/
theorem fair_reader (proper : shape.Proper) {build : Fields → Placed α} {visited : List String}
    (reads : ∀ s : Fields, s.Reads visited (build s)) (all : ∀ name ∈ shape.names, name ∈ visited) :
    Reader.Fair (shape.reader build) where
  whole {d a} h := by
    unfold reader at h
    split at h
    · next deep members e =>
      split at h
      · cases h
      · obtain ⟨straight, built⟩ := Placed.toExcept_guard_eq_ok.1 h
        obtain ⟨sound, each⟩ := sound_of_strayFault straight fun name member _ at' d found =>
          (reads _).whole built name (all name member) at' d found
        exact Document.skipMembers_eq_none sound each
    · next deep items e =>
      split at h
      · cases h
      · obtain ⟨none', built⟩ := Placed.toExcept_guard_eq_ok.1 h
        obtain ⟨sound, short⟩ := sound_of_surplusFault none'
        refine Document.skipItems_eq_none sound fun d member => ?_
        -- each item stands at the place of a name
        obtain ⟨place, inside, rfl⟩ := List.mem_iff_getElem.1 member
        have named : place < shape.names.length := inside.trans_le short
        refine (reads _).whole built _ (all _ (List.getElem_mem named)) place _ (find_ofItems.2 ⟨?_, ?_⟩)
        · exact proper.distinct.idxOf_getElem place named
        · exact List.getElem?_eq_getElem inside
    · cases h
  clean {d} clean := by
    unfold reader
    split
    · next deep members e =>
      split
      · exact cleanIn_syntactic rfl
      · cases clean with
        | object keys each last =>
          intro f h
          rcases Placed.toExcept_guard_eq_error h with ⟨place, stray⟩ | ⟨place, built⟩
          · exact clean_strayFault proper keys each last stray
          · exact (reads _).clean (clean_ofMembers each) built
    · next deep items e =>
      split
      · exact cleanIn_syntactic rfl
      · cases clean with
        | array each last =>
          intro f h
          rcases Placed.toExcept_guard_eq_error h with ⟨place, surplus⟩ | ⟨place, built⟩
          · exact clean_surplusFault last surplus
          · exact (reads _).clean (clean_ofItems proper each) built
    · exact .error (Reader.clean_unexpected (.append (by decide) proper.title) clean)

/-! ## A shape with fewer names -/

variable {wide narrow : RecordShape} {deep : Bool}
  {members : List (Except Fault String × Document)}

/-- Shapes with the same other names know a key by the same field. -/
theorem canonical_congr (same : wide.aliases = narrow.aliases) (key : String) :
    wide.canonical key = narrow.canonical key := by
  rw [RecordShape.canonical, same, RecordShape.canonical]

/-- Shapes with the same other names find the same fields in an object. -/
theorem ofMembers_congr (same : wide.aliases = narrow.aliases)
    (members : List (Except Fault String × Document)) :
    wide.ofMembers members = narrow.ofMembers members := by
  have found (name : String) (place : Nat) :
      wide.member? name place members = narrow.member? name place members := by
    induction members generalizing place with
    | nil => rfl
    | cons m members ih =>
      obtain ⟨key, d⟩ := m
      cases key with
      | error f => exact ih (place + 1)
      | ok key => rw [member?, member?, canonical_congr same, ih]
  simp only [ofMembers, found]

/-- A field that one shape has and the other has not is passed over like any other member. -/
theorem strayFault_narrow (same : wide.aliases = narrow.aliases)
    (fewer : ∀ name ∈ narrow.names, name ∈ wide.names) {place : Nat} {seen seen' : List String}
    (seenFewer : ∀ name ∈ seen', name ∈ seen)
    (straight : wide.strayFault e place seen members = none)
    (passed : ∀ m ∈ members, m.2.skipFault = none) :
    narrow.strayFault e place seen' members = none := by
  induction members generalizing place seen seen' with
  | nil =>
    cases e with
    | broken b => cases straight
    | closed | whole => rfl
  | cons m members ih =>
    obtain ⟨key, d⟩ := m
    obtain ⟨here, others⟩ := List.forall_mem_cons.1 passed
    cases key with
    | error f => cases straight
    | ok key =>
      have alike := canonical_congr same key
      rw [strayFault_cons_eq_none, alike] at straight
      rw [strayFault_cons_eq_none]
      rcases straight with ⟨-, fresh, later⟩ | ⟨other, -, later⟩
      · by_cases named : narrow.canonical key ∈ narrow.names
        · refine .inl ⟨named, fun again => fresh (seenFewer _ again),
            ih (fun name member => ?_) later others⟩
          rcases List.mem_cons.1 member with rfl | member
          · exact List.mem_cons_self
          · exact List.mem_cons_of_mem _ (seenFewer name member)
        · exact .inr ⟨named, here,
            ih (fun name member => List.mem_cons_of_mem _ (seenFewer name member)) later others⟩
      · exact .inr ⟨fun named => other (fewer _ named), here, ih seenFewer later others⟩

/-- An object that is taken with many fields is taken with some of them. -/
theorem reader_narrow {α β : Type} {build : Fields → Placed α} {build' : Fields → Placed β}
    (same : wide.aliases = narrow.aliases) (fewer : ∀ name ∈ narrow.names, name ∈ wide.names)
    {visited : List String} (reads : ∀ s : Fields, s.Reads visited (build s))
    (all : ∀ name ∈ wide.names, name ∈ visited) {a : α} {b : β}
    (built : ∀ s : Fields, build s = .ok a → build' s = .ok b)
    (taken : wide.reader build (.object deep members e) = .ok a) :
    narrow.reader build' (.object deep members e) = .ok b := by
  unfold reader at taken ⊢
  simp only at taken ⊢
  split at taken
  · cases taken
  · next shallow =>
    obtain ⟨straight, done⟩ := Placed.toExcept_guard_eq_ok.1 taken
    obtain ⟨-, passed⟩ := sound_of_strayFault straight fun name member _ at' d found =>
      (reads _).whole done name (all name member) at' d found
    rw [if_neg shallow]
    refine Placed.toExcept_guard_eq_ok.2 ⟨?_, ?_⟩
    · exact strayFault_narrow same fewer (fun _ member => member) straight passed
    · rw [← ofMembers_congr same]
      exact built _ done

end RecordShape

/-! ## Whatever is taken -/

/-- Whatever a reader takes a document for has a property. -/
def Reader.Yields {α : Type} (r : Reader α) (P : α → Prop) : Prop := ∀ d a, r d = .ok a → P a

section

variable {α : Type} {r : Reader α} {P : α → Prop}

/-- A natural number that is taken fits its bits. -/
theorem Reader.yields_natural (name : String) (bits : Nat) :
    Yields (natural name bits) (· < 2 ^ bits) := by
  intro d n read
  obtain ⟨i, taken, rfl⟩ := map_eq_ok.1 read
  have power : Nat.pow 2 bits = 2 ^ bits := rfl
  have pos := Nat.two_pow_pos bits
  unfold whole at taken
  split at taken
  · split at taken
    · next range =>
      simp only [Bool.and_eq_true, decide_eq_true_eq, power] at range
      cases taken
      omega
    · cases taken
  · cases taken

/-- A field has the property if what is read has it, and what is taken where it is absent. -/
theorem Reader.Yields.withDefault {s : Fields} {name : String} {a absent : α} (yields : r.Yields P)
    (default : P absent) (done : s.withDefault name r absent = .ok a) : P a := by
  unfold Fields.withDefault at done
  split at done
  · exact yields _ a (Fields.readAt_eq_ok done)
  · cases done
    exact default

/-- A record has the property if all that is built from fields has it. -/
theorem RecordShape.yields_reader {shape : RecordShape} {build : Fields → Placed α}
    (built : ∀ s a, build s = .ok a → P a) : Reader.Yields (shape.reader build) P := by
  intro d a taken
  unfold reader at taken
  split at taken
  · split at taken
    · cases taken
    · exact built _ a (Placed.toExcept_guard_eq_ok.1 taken).2
  · split at taken
    · cases taken
    · exact built _ a (Placed.toExcept_guard_eq_ok.1 taken).2
  · cases taken

/-- What a text is taken for has the property too. -/
theorem Reader.Yields.ofText (yields : r.Yields P) {s : String} {a : α}
    (read : Reader.ofText r s = .ok a) : P a := by
  rw [Reader.ofText, ofBytes] at read
  generalize Document.ofBytes s.toUTF8.toList = parsed at read
  obtain ⟨b, taken, read⟩ := bind_eq_ok.1 read
  split at read
  · cases read
  · exact Except.ok.inj read ▸ yields _ b taken

end

end ResourceTree.Json
