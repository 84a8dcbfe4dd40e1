import ResourceTree.Resource.Basic

/-!
# Kinds and their names

Names of kinds differ, so a name is read back as the kind that it was written for.
-/

namespace ResourceTree.Kind
set_option autoImplicit false

theorem mem_all (k : Kind) : k ∈ all := by
  cases k <;> decide

/-- Different kinds have different names. -/
theorem name_inj {k l : Kind} (h : k.name = l.name) : k = l := by
  have pairwise : ∀ k ∈ all, ∀ l ∈ all, k.name = l.name → k = l := by decide
  exact pairwise k (mem_all k) l (mem_all l) h

/-- A name is that of the kind it is read as. -/
theorem name_of_ofName? {s : String} {k : Kind} (h : ofName? s = some k) : k.name = s := by
  unfold ofName? at h
  simpa using List.find?_some h

/-- A kind is read from its own name and from no other. -/
theorem ofName?_eq_some_iff {s : String} {k : Kind} : ofName? s = some k ↔ k.name = s := by
  constructor
  · exact name_of_ofName?
  · rintro rfl
    cases found : ofName? k.name with
    | none => exact absurd (List.find?_eq_none.1 found k (mem_all k)) (by simp)
    | some l => rw [name_inj (name_of_ofName? found)]

/-- A resource is of a kind with a property if its kind is the name of one. -/
theorem isOfKind_iff (p : Kind → Bool) (r : Resource) :
    r.isOfKind p = true ↔ ∃ k, p k = true ∧ k.name = r.kind := by
  simp only [Resource.isOfKind, Resource.kind?, Option.any_eq_true, ofName?_eq_some_iff]
  exact exists_congr fun k => and_comm

end ResourceTree.Kind
