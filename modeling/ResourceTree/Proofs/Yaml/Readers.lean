import ResourceTree.Proofs.Result
import ResourceTree.Proofs.Yaml.Documents
import ResourceTree.Proofs.Yaml.Numbers

/-!
# Readers of printed values

What readers take the nodes of printed values for, and what can be said of all that a reader takes a node
for. Members come one by one into a record, so that each is a step from one record to the next.
-/

namespace ResourceTree.Yaml.Reader
set_option autoImplicit false

variable {α β : Type}

/-! ## Printed values -/

/-- The node of a value is taken for the given one. -/
def Takes (r : Reader α) (v : Value) (a : α) : Prop := ∀ anchored, r anchored v.node = .ok a

theorem takes_text (x : String) : Takes text (.text x) x := fun _ => rfl

/-- The digits of a number that fits are taken for the number. -/
theorem takes_natural (name : String) {bits n : Nat} (small : n < 2 ^ bits) (few : bits ≤ 64) :
    Takes (natural name bits) (.word (toString n)) n := by
  intro anchored
  have wide : n < Nat.pow 2 64 := Nat.lt_of_lt_of_le small (Nat.pow_le_pow_right (by decide) few)
  have read : Scalar.natural? (Nat.pow 2 64) (toString n).toList = some n := by
    rw [Nat.toString_eq_ofList_toDigits, String.toList_ofList]
    exact Scalar.natural?_toDigits wide
  have typed : (typed? intTag (anchored.resolve (Value.word (toString n)).node)).bind
      (fun s => Scalar.natural? (Nat.pow 2 64) s.toList) = some n := read
  simp only [natural, ofNode, typed]
  exact if_pos small

/-- A word that stands for a double is taken for it. -/
theorem takes_double {x : Float} {s : String} (read : Scalar.double? s = some x) : Takes double (.word s) x := by
  intro anchored
  have typed : (typed? floatTag (anchored.resolve (Value.word s).node)).bind Scalar.double? = some x := read
  simp only [double, ofNode, typed]

/-- A word of the choice is taken for what it stands for. -/
theorem takes_choice {words : List (String × α)} {word : String} {a : α}
    (found : words.find? (·.1 = word) = some (word, a)) : Takes (choice words) (.word word) a := by
  intro anchored
  change wordValue words Misfit.fault word = .ok a
  rw [wordValue, found]

/-- A list of texts is taken for these texts. -/
theorem takes_texts (xs : List String) : Takes (list text) (.texts xs) xs := by
  intro anchored
  change items (text anchored) none 0 (xs.map itemNode) = .ok xs
  generalize 0 = place
  induction xs generalizing place with
  | nil => rfl
  | cons x xs ih =>
    rw [List.map_cons, items, ih]
    rfl

theorem Takes.put {r : Reader β} {v : Value} {b : β} (takes : Takes r v b) (set : β → α) :
    Takes (r.put set) v (set b) := by
  intro anchored
  rw [Reader.put, takes anchored]
  rfl

/-- The members of a record, with those that have been met, are taken for a record. -/
def TakesMembers (field : String → α → Option (Reader α)) (seen : List String) (start : α)
    (ms : List (String × Value)) (a : α) : Prop :=
  ∀ anchored, members anchored field none seen start (memberNodes ms) = .ok a

section

variable {field : String → α → Option (Reader α)} {seen : List String} {start next a : α}
  {ms : List (String × Value)}

theorem takesMembers_nil : TakesMembers field seen a [] a := fun _ => rfl

/-- A member that is met for the first time brings the record one field further. -/
theorem TakesMembers.step {name : String} {v : Value} {r : Reader α}
    (known : field name start = some r) (takes : Takes r v next) (fresh : seen.contains name = false)
    (rest : TakesMembers field (name :: seen) next ms a) :
    TakesMembers field seen start ((name, v) :: ms) a := by
  intro anchored
  have named : key anchored (.scalar none .plain name) = .ok name := rfl
  rw [memberNodes, members, named]
  simp only [bind, Except.bind, known, fresh, takes anchored, Except.mapError, Bool.false_eq_true, if_false]
  exact rest anchored

/-- A mapping is taken for the record that its members lead to. -/
theorem takes_record (title : String) (taken : TakesMembers field [] start ms a) :
    Takes (record title field start) (.mapping ms) a :=
  fun anchored => taken anchored

end

/-! ## Whatever is taken -/

/-- Whatever a reader takes a node for has a property. -/
def Yields (r : Reader α) (P : α → Prop) : Prop := ∀ anchored n a, r anchored n = .ok a → P a

variable {P : α → Prop}

theorem yields_any (r : Reader α) : Yields r fun _ => True := fun _ _ _ _ => trivial

/-- A natural number that is taken fits its bits. -/
theorem yields_natural (name : String) (bits : Nat) : Yields (natural name bits) (· < 2 ^ bits) := by
  intro anchored n a read
  simp only [natural, ofNode] at read
  split at read
  · split at read
    · next small => exact Except.ok.inj read ▸ small
    · exact nomatch read
  · exact nomatch read

/-- What is put into a record has what it needs if what was taken brings it. -/
theorem Yields.put {r : Reader β} {Q : β → Prop} (yields : Yields r Q) {set : β → α}
    (each : ∀ b, Q b → P (set b)) : Yields (r.put set) P := by
  intro anchored n a read
  obtain ⟨b, taken, rfl⟩ := map_eq_ok.1 read
  exact each b (yields anchored n b taken)

/-- A record has a property that its start has and that every field keeps. -/
theorem yields_record (title : String) {field : String → α → Option (Reader α)} {start : α} (begins : P start)
    (keeps : ∀ name a r, P a → field name a = some r → Yields r P) : Yields (record title field start) P := by
  have taken (anchored : Anchored) (e : Option Break) (ms : List (Node × Node)) {seen : List String} {a b : α}
      (holds : P a) (read : members anchored field e seen a ms = .ok b) : P b := by
    induction ms generalizing seen a with
    | nil =>
      obtain ⟨_, -, rfl⟩ := map_eq_ok.1 read
      exact holds
    | cons m ms ih =>
      obtain ⟨k, v⟩ := m
      rw [members] at read
      obtain ⟨name, -, read⟩ := bind_eq_ok.1 read
      split at read
      · obtain ⟨_, -, read⟩ := bind_eq_ok.1 read
        exact ih holds read
      · next r known =>
        split at read
        · exact nomatch read
        · obtain ⟨next, member, read⟩ := bind_eq_ok.1 read
          exact ih (keeps name a r holds known anchored v next (mapError_eq_ok.1 member)) read
  intro anchored n a read
  simp only [record, ofNode] at read
  split at read
  · exact taken anchored _ _ begins read
  · split at read
    · exact Except.ok.inj read ▸ begins
    · exact nomatch read
  · exact nomatch read

/-- What a text is taken for has the property too. -/
theorem Yields.ofText {r : Reader α} (yields : Yields r P) {s : String} {a : α} (read : r.ofText s = .ok a) :
    P a := by
  rw [Reader.ofText] at read
  obtain ⟨b, taken, read⟩ := bind_eq_ok.1 read
  obtain ⟨_, -, read⟩ := bind_eq_ok.1 read
  split at read
  · cases read
  · exact Except.ok.inj read ▸ yields _ _ b taken

end ResourceTree.Yaml.Reader
