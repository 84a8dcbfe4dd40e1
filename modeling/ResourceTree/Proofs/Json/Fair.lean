import ResourceTree.Json.Reader
import ResourceTree.Proofs.Json.Readers
import ResourceTree.Proofs.Text.Unbroken

/-!
# Fair readers

A reader is fair if it takes no document with a fault anywhere in it, so that whoever passes over the
document finds no fault either, and if it refuses a document for a fault that stands in it or for one
of its own making, whose wording is kept on one line. Lists, dictionaries and records are read fairly
if their parts are.
-/

namespace ResourceTree.Json
set_option autoImplicit false

open Text (Unbroken unbroken_int unbroken_nat unbroken_quoted)

/-! ## Wordings on one line -/

/-- The wording stands on one line. -/
def Fault.Clean (f : Fault) : Prop := Unbroken f.message

instance (f : Fault) : Decidable f.Clean := inferInstanceAs (Decidable (Unbroken _))

/-- The faults that say nothing of what was found. -/
def Fault.IsSyntax : Fault → Bool
  | .wrongType .. | .wrongValue .. | .wrongLength .. | .missingField _ | .duplicateField _
  | .unknownVariant .. => false
  | _ => true

/-- The wording of a fault of syntax quotes nothing. -/
theorem Fault.clean_of_isSyntax {f : Fault} (syntactic : f.IsSyntax = true) : f.Clean := by
  cases f with
  | wrongType | wrongValue | wrongLength | missingField | duplicateField | unknownVariant =>
    cases syntactic
  | _ => decide

/-- What was found is described on one line, since texts are quoted. -/
theorem unbroken_describe (found : Found) : Unbroken found.describe := by
  cases found with
  | null | array | object => decide
  | bool b => cases b <;> decide
  | text s => exact .append (by decide) (unbroken_quoted s)
  | number n =>
    cases n with
    | whole n => exact .append (.append (by decide) (unbroken_int n)) (by decide)
    | double x =>
      have digits := numberStyle.unbroken_text (by decide) (by decide) (by decide) x
      exact .append (.append (by decide) digits) (by decide)

theorem Fault.clean_wrongType (found : Found) {expected : String} (plain : Unbroken expected) :
    (wrongType found expected).Clean :=
  .append (.append (.append (by decide) (unbroken_describe found)) (by decide)) plain

theorem Fault.clean_wrongValue (found : Found) {expected : String} (plain : Unbroken expected) :
    (wrongValue found expected).Clean :=
  .append (.append (.append (by decide) (unbroken_describe found)) (by decide)) plain

theorem Fault.clean_wrongLength (length : Nat) {expected : String} (plain : Unbroken expected) :
    (wrongLength length expected).Clean :=
  .append (.append (.append (by decide) (unbroken_nat length)) (by decide)) plain

theorem Fault.clean_missingField {name : String} (plain : Unbroken name) :
    (missingField name).Clean :=
  .append (.append (by decide) plain) (by decide)

theorem Fault.clean_duplicateField {name : String} (plain : Unbroken name) :
    (duplicateField name).Clean :=
  .append (.append (by decide) plain) (by decide)

/-- Whatever fault there is, its wording stands on one line. -/
abbrev CleanIn {α : Type} (x : Except Fault α) : Prop := RefusedFor Fault.Clean x

/-- A reader that stops at a fault of syntax keeps to one line. -/
theorem cleanIn_syntactic {α : Type} {f : Fault} (syntactic : f.IsSyntax = true) :
    CleanIn (.error f : Except Fault α) := .error (Fault.clean_of_isSyntax syntactic)

/-! ## Documents whose faults stand on one line -/

structure Break.Clean (b : Break) : Prop where
  read : b.read.Clean
  skip : b.skip.Clean

def Ending.Clean : Ending → Prop
  | .broken b => b.Clean
  | _ => True

/-- Every fault in the document has its wording on one line. -/
inductive Document.Clean : Document → Prop where
  | null : Clean .null
  | bool (b : Bool) : Clean (.bool b)
  | number {n : Except Fault Number} (found : CleanIn n) : Clean (.number n)
  | text {s : Except Fault String} (found : CleanIn s) : Clean (.text s)
  | array {deep : Bool} {items : List Document} {e : Ending} (each : ∀ d ∈ items, d.Clean)
    (last : e.Clean) : Clean (.array deep items e)
  | object {deep : Bool} {members : List (Except Fault String × Document)} {e : Ending}
    (keys : ∀ m ∈ members, CleanIn m.1) (each : ∀ m ∈ members, m.2.Clean) (last : e.Clean) :
    Clean (.object deep members e)
  | broken {b : Break} (found : b.Clean) : Clean (.broken b)

namespace Document

variable {e : Ending} {f : Fault}

/-! ### Passing over -/

/-- Items can be passed over if each of them can and the array ends as it should. -/
theorem skipItems_eq_none {items : List Document} (sound : e.Sound)
    (each : ∀ d ∈ items, d.skipFault = none) : skipItems items e = none := by
  induction items with
  | nil =>
    cases e with
    | broken b => exact absurd sound id
    | closed | whole => rfl
  | cons d items ih =>
    rw [skipItems, each d List.mem_cons_self, Option.none_or]
    exact ih fun d member => each d (List.mem_cons_of_mem _ member)

/-- The keys of an object are passed over whatever they are. -/
theorem skipMembers_eq (members : List (Except Fault String × Document)) (e : Ending) :
    skipMembers members e = skipItems (members.map Prod.snd) e := by
  induction members with
  | nil => cases e <;> rfl
  | cons m members ih => rw [skipMembers, ih, List.map_cons, skipItems]

/-- Members can be passed over if their documents can and the object ends as it should. -/
theorem skipMembers_eq_none {members : List (Except Fault String × Document)} (sound : e.Sound)
    (each : ∀ m ∈ members, m.2.skipFault = none) : skipMembers members e = none := by
  rw [skipMembers_eq]
  exact skipItems_eq_none sound (List.forall_mem_map.2 each)

/-- A fault that is met in passing is that of an item or that of the ending. -/
theorem skipItems_eq_some {items : List Document} (h : skipItems items e = some f) :
    (∃ d ∈ items, d.skipFault = some f) ∨ ∃ b, e = .broken b ∧ b.skip = f := by
  induction items with
  | nil =>
    cases e with
    | broken b => exact .inr ⟨b, rfl, Option.some.inj h⟩
    | closed | whole => cases h
  | cons d items ih =>
    rw [skipItems] at h
    rcases Option.or_eq_some_iff.1 h with here | ⟨-, there⟩
    · exact .inl ⟨d, List.mem_cons_self, here⟩
    · rcases ih there with ⟨d, member, here⟩ | last
      · exact .inl ⟨d, List.mem_cons_of_mem _ member, here⟩
      · exact .inr last

/-- A document with faults on one line is passed over with a fault on one line. -/
theorem Clean.skip {d : Document} (clean : d.Clean) (h : d.skipFault = some f) : f.Clean := by
  induction clean with
  | null | bool | number | text => cases h
  | array _ last ih =>
    rcases skipItems_eq_some h with ⟨d, member, here⟩ | ⟨b, rfl, rfl⟩
    · exact ih d member here
    · exact last.skip
  | object _ _ last ih =>
    rw [skipFault, skipMembers_eq] at h
    rcases skipItems_eq_some h with ⟨d, member, here⟩ | ⟨b, rfl, rfl⟩
    · obtain ⟨m, inside, rfl⟩ := List.mem_map.1 member
      exact ih m inside here
    · exact last.skip
  | broken found =>
    cases h
    exact found.skip

end Document

/-! ## Readers -/

namespace Reader

variable {α : Type} {r : Reader α} {e : Ending}

/-- The reader takes no document with a fault in it, and refuses none in more than one line. -/
structure Fair (r : Reader α) : Prop where
  whole : ∀ {d : Document} {a : α}, r d = .ok a → d.skipFault = none
  clean : ∀ {d : Document}, d.Clean → CleanIn (r d)

/-- What stands in place of something else is named on one line. -/
theorem clean_unexpected {expected : String} (plain : Unbroken expected) {d : Document}
    (clean : d.Clean) : (unexpected expected d).Clean := by
  cases clean with
  | null | bool | array | object => exact Fault.clean_wrongType _ plain
  | @number n found =>
    cases n with
    | ok n => exact Fault.clean_wrongType _ plain
    | error f => exact found f rfl
  | @text s found =>
    cases s with
    | ok s => exact Fault.clean_wrongType _ plain
    | error f => exact found f rfl
  | broken found => exact found.read

theorem fair_text : Fair text where
  whole h := by
    unfold text at h
    split at h
    · rfl
    · cases h
  clean clean := by
    unfold text
    split
    · exact .ok _
    · exact .error (clean_unexpected (by decide) clean)

theorem fair_flag : Fair flag where
  whole h := by
    unfold flag at h
    split at h
    · rfl
    · cases h
  clean clean := by
    unfold flag
    split
    · exact .ok _
    · exact .error (clean_unexpected (by decide) clean)

theorem fair_int32 : Fair int32 where
  whole h := by
    unfold int32 whole at h
    split at h
    · rfl
    · cases h
  clean clean := by
    unfold int32 whole
    split
    · split
      · exact .ok _
      · exact .error (Fault.clean_wrongValue _ (by decide))
    · exact .error (clean_unexpected (by decide) clean)

theorem Fair.map {β : Type} (fair : Fair r) (g : α → β) : Fair fun d => g <$> r d where
  whole h := by
    obtain ⟨a, taken, -⟩ := map_eq_ok.1 h
    exact fair.whole taken
  clean clean := (fair.clean clean).map g

/-- An optional field is read as fairly as what may stand in it. -/
theorem Fair.optional (fair : Fair r) : Fair (optional r) where
  whole h := by
    unfold Reader.optional at h
    split at h
    · rfl
    · obtain ⟨a, taken, -⟩ := map_eq_ok.1 h
      exact fair.whole taken
  clean clean := by
    unfold Reader.optional
    split
    · exact .ok _
    · exact (fair.clean clean).map _

/-- An ending that is read through is one that does not break off. -/
theorem ending_eq_ok (h : ending e = .ok ()) : e.Sound := by
  cases e with
  | broken b => cases h
  | closed | whole => trivial

theorem clean_ending (last : e.Clean) : CleanIn (ending e) := by
  cases e with
  | broken b => exact .error last.read
  | closed | whole => exact .ok _

/-- Items that are all taken come with an ending that does not break off. -/
theorem items_eq_ok_inv {ds : List Document} {as : List α} (h : items r e ds = .ok as) :
    e.Sound ∧ ∀ d ∈ ds, ∃ a, r d = .ok a := by
  induction ds generalizing as with
  | nil =>
    obtain ⟨_, done, -⟩ := map_eq_ok.1 h
    exact ⟨ending_eq_ok done, List.forall_mem_nil _⟩
  | cons d ds ih =>
    obtain ⟨a, here, h⟩ := bind_eq_ok.1 h
    obtain ⟨as', there, -⟩ := bind_eq_ok.1 h
    obtain ⟨sound, each⟩ := ih there
    exact ⟨sound, List.forall_mem_cons.2 ⟨⟨a, here⟩, each⟩⟩

/-- Entries that are all taken come with an ending that does not break off. -/
theorem entries_eq_ok_inv {members : List (Except Fault String × Document)}
    {as : List (String × α)} (h : entries r e members = .ok as) :
    e.Sound ∧ ∀ m ∈ members, ∃ a, r m.2 = .ok a := by
  induction members generalizing as with
  | nil =>
    obtain ⟨_, done, -⟩ := map_eq_ok.1 h
    exact ⟨ending_eq_ok done, List.forall_mem_nil _⟩
  | cons m members ih =>
    obtain ⟨k, -, h⟩ := bind_eq_ok.1 h
    obtain ⟨a, here, h⟩ := bind_eq_ok.1 h
    obtain ⟨as', there, -⟩ := bind_eq_ok.1 h
    obtain ⟨sound, each⟩ := ih there
    exact ⟨sound, List.forall_mem_cons.2 ⟨⟨a, here⟩, each⟩⟩

/-- Items are refused on one line if each of them and the ending are. -/
theorem clean_items {ds : List Document} (each : ∀ d ∈ ds, CleanIn (r d)) (last : e.Clean) :
    CleanIn (items r e ds) := by
  induction ds with
  | nil => exact (clean_ending last).map _
  | cons d ds ih =>
    obtain ⟨here, each⟩ := List.forall_mem_cons.1 each
    exact here.bind fun a => (ih each).bind fun as => .ok _

/-- Entries are refused on one line if keys, documents and the ending are. -/
theorem clean_entries {members : List (Except Fault String × Document)}
    (keys : ∀ m ∈ members, CleanIn m.1) (each : ∀ m ∈ members, CleanIn (r m.2)) (last : e.Clean) :
    CleanIn (entries r e members) := by
  induction members with
  | nil => exact (clean_ending last).map _
  | cons m members ih =>
    obtain ⟨key, keys⟩ := List.forall_mem_cons.1 keys
    obtain ⟨here, each⟩ := List.forall_mem_cons.1 each
    exact key.bind fun k => here.bind fun a => (ih keys each).bind fun as => .ok _

/-- A list is read as fairly as its items. -/
theorem Fair.list (fair : Fair r) : Fair (list r) where
  whole h := by
    unfold Reader.list at h
    split at h
    · split at h
      · cases h
      · obtain ⟨sound, each⟩ := items_eq_ok_inv h
        refine Document.skipItems_eq_none sound fun d member => ?_
        obtain ⟨a, taken⟩ := each d member
        exact fair.whole taken
    · cases h
  clean clean := by
    unfold Reader.list
    split
    · split
      · exact cleanIn_syntactic rfl
      · cases clean with
        | array each last => exact clean_items (fun d member => fair.clean (each d member)) last
    · exact .error (clean_unexpected (by decide) clean)

/-- A dictionary is read as fairly as its values. -/
theorem Fair.dictionary (fair : Fair r) : Fair (dictionary r) where
  whole h := by
    unfold Reader.dictionary at h
    split at h
    · split at h
      · cases h
      · obtain ⟨_, found, -⟩ := map_eq_ok.1 h
        obtain ⟨sound, each⟩ := entries_eq_ok_inv found
        refine Document.skipMembers_eq_none sound fun m member => ?_
        obtain ⟨a, taken⟩ := each m member
        exact fair.whole taken
    · cases h
  clean clean := by
    unfold Reader.dictionary
    split
    · split
      · exact cleanIn_syntactic rfl
      · cases clean with
        | object keys each last =>
          exact (clean_entries keys (fun m member => fair.clean (each m member)) last).map _
    · exact .error (clean_unexpected (by decide) clean)

/-! ### Any value -/

mutual

/-- A document that is taken for a value holds nothing that would break a passage over it. -/
theorem whole_value (d : Document) {v : Value} (h : value d = .ok v) : d.skipFault = none := by
  match d with
  | .null | .bool _ | .number _ | .text _ => rfl
  | .broken b => cases h
  | .array deep ds e =>
    rw [value] at h
    split at h
    · cases h
    · obtain ⟨vs, each, -⟩ := map_eq_ok.1 h
      exact whole_valueItems ds each
  | .object deep ms e =>
    rw [value] at h
    split at h
    · cases h
    · obtain ⟨vs, each, -⟩ := map_eq_ok.1 h
      exact whole_valueEntries ms each

theorem whole_valueItems {e : Ending} (ds : List Document) {vs : List Value}
    (h : valueItems e ds = .ok vs) : Document.skipItems ds e = none := by
  match ds with
  | [] =>
    obtain ⟨_, done, -⟩ := map_eq_ok.1 h
    exact Document.skipItems_eq_none (ending_eq_ok done) (List.forall_mem_nil _)
  | d :: ds =>
    obtain ⟨v, here, h⟩ := bind_eq_ok.1 h
    obtain ⟨vs', there, -⟩ := bind_eq_ok.1 h
    rw [Document.skipItems, whole_value d here, Option.none_or]
    exact whole_valueItems ds there

theorem whole_valueEntries {e : Ending} (ms : List (Except Fault String × Document))
    {vs : List (String × Value)} (h : valueEntries e ms = .ok vs) :
    Document.skipMembers ms e = none := by
  match ms with
  | [] =>
    obtain ⟨_, done, -⟩ := map_eq_ok.1 h
    exact Document.skipMembers_eq_none (ending_eq_ok done) (List.forall_mem_nil _)
  | (key, d) :: ms =>
    obtain ⟨k, -, h⟩ := bind_eq_ok.1 h
    obtain ⟨v, here, h⟩ := bind_eq_ok.1 h
    obtain ⟨vs', there, -⟩ := bind_eq_ok.1 h
    rw [Document.skipMembers, whole_value d here, Option.none_or]
    exact whole_valueEntries ms there

end

/-- Reading any value sees the whole document. -/
theorem fair_value : Fair value where
  whole {d _} h := whole_value d h
  clean {d} clean := by
    induction clean with
    | null | bool => exact .ok _
    | number found | text found => exact found.map _
    | array each last ih =>
      rw [value, valueItems_eq]
      split
      · exact cleanIn_syntactic rfl
      · exact (clean_items ih last).map _
    | object keys each last ih =>
      rw [value, valueEntries_eq]
      split
      · exact cleanIn_syntactic rfl
      · exact (clean_entries keys ih last).map _
    | broken found => exact .error found.read

end Reader

end ResourceTree.Json
