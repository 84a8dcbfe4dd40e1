import ResourceTree.Proofs.Json.Holding
import ResourceTree.Proofs.Result

/-!
# What readers make of a value

A reader takes a value for a result if it comes to that result on every document that holds the
value. Lists, dictionaries and records are taken for what their parts are taken for; a record may
leave out the fields that have a default, and the order of its fields does not count.
-/

namespace ResourceTree.Json
set_option autoImplicit false

open Document (HoldsItems HoldsMember HoldsMembers)

namespace Reader

variable {α : Type} {r : Reader α}

/-- The reader comes to the result on every document that holds the value. -/
def Takes (r : Reader α) (v : Value) (a : α) : Prop := ∀ d : Document, d.Holds v → r d = .ok a

theorem takes_text (s : String) : Takes text (.text s) s := by
  rintro _ ⟨⟩
  rfl

theorem takes_flag (b : Bool) : Takes flag (.bool b) b := by
  rintro _ ⟨⟩
  rfl

/-- A number within the bounds is taken. -/
theorem takes_whole (name : String) {low high n : Int} (above : low ≤ n) (below : n ≤ high) :
    Takes (whole name low high) (.number (.whole n)) n := by
  rintro _ ⟨⟩
  simp [whole, above, below]

/-- Where null is allowed, anything else is taken as before. -/
theorem takes_optional {v : Value} {a : α} (takes : Takes r v a) (some' : v ≠ .null) :
    Takes (optional r) v (some a) := by
  intro d holds
  have read := takes d holds
  cases holds with
  | null => exact absurd rfl some'
  | _ => exact congrArg (some <$> ·) read

/-- An ending that does not break off is read through. -/
theorem ending_sound {e : Ending} (sound : e.Sound) : ending e = .ok () := by
  cases e with
  | broken b => exact absurd sound id
  | closed => rfl
  | whole => rfl

/-! ## Lists and dictionaries -/

/-- Items that are each taken are taken together. -/
theorem items_eq_ok {e : Ending} (sound : e.Sound) {ds : List Document} {as : List α}
    (each : List.Forall₂ (fun d a => r d = .ok a) ds as) : items r e ds = .ok as := by
  induction each with
  | nil => rw [items, ending_sound sound]; rfl
  | cons head _ ih => rw [items, head, ih]; rfl

/-- Documents that hold values are taken one by one for what the values are taken for. -/
theorem forall₂_takes {ds : List Document} {vs : List Value} {as : List α}
    (holds : List.Forall₂ Document.Holds ds vs) (each : List.Forall₂ (Takes r) vs as) :
    List.Forall₂ (fun d a => r d = .ok a) ds as := by
  induction holds generalizing as with
  | nil => cases each; exact .nil
  | cons head _ ih =>
    cases each with
    | cons takes each => exact .cons (takes _ head) (ih each)

/-- A list is taken for what its items are taken for. -/
theorem takes_list {vs : List Value} {as : List α} (each : List.Forall₂ (Takes r) vs as) :
    Takes (list r) (.array vs) as := by
  intro d holds
  cases holds with
  | array sound held =>
    exact items_eq_ok sound (forall₂_takes (Document.holdsItems_iff.1 held) each)

theorem forall₂_map {toValue : α → Value} {as : List α}
    (each : ∀ a ∈ as, Takes r (toValue a) a) : List.Forall₂ (Takes r) (as.map toValue) as := by
  rw [List.forall₂_map_left_iff, List.forall₂_same]
  exact each

/-- A member has a key, and a reader comes to a result on its document. -/
def ReadsMember (r : Reader α) (found : Except Fault String × Document) (entry : String × α) : Prop :=
  found.1 = .ok entry.1 ∧ r found.2 = .ok entry.2

/-- Members that are each taken are taken together. -/
theorem entries_eq_ok {e : Ending} (sound : e.Sound)
    {found : List (Except Fault String × Document)} {read : List (String × α)}
    (each : List.Forall₂ (ReadsMember r) found read) : entries r e found = .ok read := by
  induction each with
  | nil => rw [entries, ending_sound sound]; rfl
  | @cons member entry _ _ head _ ih =>
    obtain ⟨key, d⟩ := member
    obtain ⟨rfl, value⟩ := head
    rw [entries]
    simp only [value, ih]
    rfl

/-- Entries of different keys make the same dictionary in any order. -/
theorem ofEntries_entries {e : Ending} (sound : e.Sound)
    {found order : List (Except Fault String × Document)} (perm : found.Perm order)
    {read : List (String × α)} (each : List.Forall₂ (ReadsMember r) order read)
    (distinct : (read.map Prod.fst).Nodup) :
    Dictionary.ofEntries <$> entries r e found = .ok (Dictionary.ofEntries read) := by
  obtain ⟨read', each', perm'⟩ := List.perm_comp_forall₂ perm each
  have same : Dictionary.ofEntries read' = Dictionary.ofEntries read :=
    Dictionary.ofEntries_eq_of_perm (Dictionary.ofEntries_sorted read)
      (perm'.trans (Dictionary.ofEntries_perm distinct).symm)
  rw [entries_eq_ok sound each', ← same]
  rfl

/-- A sorted dictionary is taken for itself, in whatever order its members come. -/
theorem takes_dictionary {d : Dictionary α} (sorted : d.Sorted) {toValue : α → Value}
    (each : ∀ a, Takes r (toValue a) a) :
    Takes (dictionary r) (.object (d.map fun e => (e.1, toValue e.2))) d := by
  intro document holds
  cases holds with
  | @object found order _ _ sound perm held =>
    have read : List.Forall₂ (ReadsMember r) order d := by
      have pairs := List.forall₂_map_right_iff.1 (Document.holdsMembers_iff.1 held)
      exact pairs.imp fun _ entry member => ⟨member.1, each entry.2 _ member.2⟩
    have whole := ofEntries_entries sound perm read sorted.nodup
    rwa [Dictionary.ofEntries_eq_of_perm sorted (.refl _)] at whole

/-! ## Any value -/

/-- Any items are read as a list of any values. -/
theorem valueItems_eq (e : Ending) (ds : List Document) : valueItems e ds = items value e ds := by
  induction ds with
  | nil => rfl
  | cons d ds ih => rw [valueItems, items, ih]

/-- Any members are read as a dictionary of any values. -/
theorem valueEntries_eq (e : Ending) (found : List (Except Fault String × Document)) :
    valueEntries e found = entries value e found := by
  induction found with
  | nil => rfl
  | cons member found ih =>
    obtain ⟨key, d⟩ := member
    rw [valueEntries, entries]
    simp only [ih]

mutual

/-- A value is read with the members of its objects in key order. -/
theorem takes_value (v : Value) (plain : v.Plain) : Takes value v v.sorted := by
  intro d holds
  match v, plain, holds with
  | .null, _, .null => rfl
  | .bool b, _, .bool _ => rfl
  | .number n, _, .number _ => rfl
  | .text s, _, .text _ => rfl
  | .array vs, plain, .array sound held =>
    have read := items_eq_ok sound
      (forall₂_takes (Document.holdsItems_iff.1 held) (takes_values vs plain))
    rw [value, valueItems_eq, if_neg Bool.false_ne_true, read]
    rfl
  | .object members, plain, .object sound perm held =>
    have distinct : ((Value.sortedMembers members).map Prod.fst).Nodup := by
      rw [Value.keys_sortedMembers]
      exact plain.1
    have read := ofEntries_entries sound perm (reads_members members plain.2 held) distinct
    obtain ⟨found, listed, same⟩ := map_eq_ok.1 read
    rw [value, valueEntries_eq, if_neg Bool.false_ne_true, listed, Value.sorted, ← same]
    rfl

theorem takes_values (vs : List Value) (plain : Value.PlainItems vs) :
    List.Forall₂ (Takes value) vs (Value.sortedItems vs) := by
  match vs, plain with
  | [], _ => exact .nil
  | v :: vs, plain => exact .cons (takes_value v plain.1) (takes_values vs plain.2)

theorem reads_members {order : List (Except Fault String × Document)}
    (members : List (String × Value)) (plain : Value.PlainMembers members)
    (held : HoldsMembers order members) :
    List.Forall₂ (ReadsMember value) order (Value.sortedMembers members) := by
  match members, plain, held with
  | [], _, .nil => exact .nil
  | (k, v) :: members, plain, .cons head tail =>
    exact .cons ⟨rfl, takes_value v plain.1 _ head⟩ (reads_members members plain.2 tail)

end

/-! ## Texts -/

/-- A reader that takes a value takes its text, if that does not nest too deep. -/
theorem ofBytes_bytes {v : Value} {a : α} (takes : Takes r v a) (plain : v.Plain)
    (shallow : (Document.ofValue v).depth ≤ Document.nestingLimit) :
    Reader.ofBytes r v.bytes = .ok a := by
  have parsed := Document.holds_parsed v
  rw [← parsed.depth_eq] at shallow
  simp only [Reader.ofBytes, Document.ofBytes_bytes plain shallow, takes _ parsed]
  rfl

/-- A printed value has the bytes that its tokens were read from. -/
theorem bytes_print (v : Value) : (print v).toUTF8.toList = v.bytes := by
  rw [Text.bytes_eq, print, String.toList_ofList, Value.bytes]

/-- A reader that takes a value takes its printed text, if that does not nest too deep. -/
theorem ofText_print {v : Value} {a : α} (takes : Takes r v a) (plain : v.Plain)
    (shallow : (Document.ofValue v).depth ≤ Document.nestingLimit) :
    Reader.ofText r (print v) = .ok a := by
  rw [Reader.ofText, bytes_print]
  exact ofBytes_bytes takes plain shallow

end Reader

end ResourceTree.Json
