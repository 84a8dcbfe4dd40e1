import Mathlib.Data.List.Perm.Basic
import Mathlib.Data.String.Basic
import ResourceTree.Dictionary

/-!
# Dictionaries from entries in any order

Entries of different keys make the same dictionary in whatever order they come, and it holds exactly
these entries.
-/

namespace ResourceTree.Dictionary
set_option autoImplicit false

variable {α : Type} {d : Dictionary α} {entries : List (String × α)}

/-- Entries in increasing key order, each key once. -/
def Sorted (d : Dictionary α) : Prop := d.Pairwise fun e e' => e.1 < e'.1

instance (d : Dictionary α) : Decidable d.Sorted :=
  inferInstanceAs (Decidable (d.Pairwise fun e e' => e.1 < e'.1))

/-- No key of a sorted dictionary stands in it twice. -/
theorem Sorted.nodup (sorted : d.Sorted) : (d.map Prod.fst).Nodup :=
  List.pairwise_map.2 (sorted.imp ne_of_lt)

/-! ## One entry -/

theorem mem_insert {key : String} {value : α} {e : String × α}
    (member : e ∈ insert key value d) : e = (key, value) ∨ e ∈ d := by
  induction d with
  | nil => exact .inl (List.mem_singleton.1 member)
  | cons head d ih =>
    obtain ⟨k, v⟩ := head
    rw [insert] at member
    split at member
    · exact (List.mem_cons.1 member)
    split at member
    · exact (List.mem_cons.1 member).imp_right (List.mem_cons_of_mem _)
    · rcases List.mem_cons.1 member with rfl | member
      · exact .inr List.mem_cons_self
      · exact (ih member).imp_right (List.mem_cons_of_mem _)

/-- An entry goes to the place of its key, so the dictionary stays sorted. -/
theorem insert_sorted (sorted : d.Sorted) (key : String) (value : α) :
    (insert key value d).Sorted := by
  induction d with
  | nil => exact List.pairwise_singleton _ _
  | cons head d ih =>
    obtain ⟨k, v⟩ := head
    obtain ⟨above, rest⟩ := List.pairwise_cons.1 sorted
    rw [insert]
    split
    · next before =>
      refine List.pairwise_cons.2 ⟨fun e member => ?_, sorted⟩
      rcases List.mem_cons.1 member with rfl | member
      · exact before
      · exact lt_trans before (above e member)
    split
    · next same =>
      subst same
      exact List.pairwise_cons.2 ⟨above, rest⟩
    · next notBefore other =>
      refine List.pairwise_cons.2 ⟨fun e member => ?_, ih rest⟩
      rcases mem_insert member with rfl | member
      · exact lt_of_le_of_ne (not_lt.1 notBefore) (Ne.symm other)
      · exact above e member

/-- A new key brings one entry in and takes none away. -/
theorem insert_perm {key : String} (fresh : key ∉ d.map Prod.fst) (value : α) :
    (insert key value d).Perm ((key, value) :: d) := by
  induction d with
  | nil => exact .refl _
  | cons head d ih =>
    obtain ⟨k, v⟩ := head
    rw [List.map_cons, List.mem_cons, not_or] at fresh
    obtain ⟨other, fresh⟩ := fresh
    rw [insert, if_neg other]
    split
    · exact .refl _
    · exact ((ih fresh).cons _).trans (.swap _ _ _)

/-! ## All entries -/

/-- A dictionary is sorted, whatever entries it was made of. -/
theorem ofEntries_sorted (entries : List (String × α)) : (ofEntries entries).Sorted := by
  refine List.foldlRecOn entries _ (motive := Sorted) List.Pairwise.nil ?_
  intro d sorted e _
  exact insert_sorted sorted e.1 e.2

theorem foldl_insert_perm (distinct : (entries.map Prod.fst ++ d.map Prod.fst).Nodup) :
    (entries.foldl (fun d e => insert e.1 e.2 d) d).Perm (entries ++ d) := by
  induction entries generalizing d with
  | nil => exact .refl _
  | cons e entries ih =>
    rw [List.map_cons, List.cons_append] at distinct
    have fresh : e.1 ∉ d.map Prod.fst := fun member =>
      (List.nodup_cons.1 distinct).1 (List.mem_append_right _ member)
    have added := insert_perm fresh e.2
    have keys : (entries.map Prod.fst ++ (insert e.1 e.2 d).map Prod.fst).Nodup :=
      (((added.map Prod.fst).append_left _).trans List.perm_middle).nodup_iff.2 distinct
    exact (ih keys).trans ((added.append_left entries).trans List.perm_middle)

/-- Entries of different keys are all kept. -/
theorem ofEntries_perm (distinct : (entries.map Prod.fst).Nodup) :
    (ofEntries entries).Perm entries := by
  have keys : (entries.map Prod.fst ++ ([] : Dictionary α).map Prod.fst).Nodup := by
    simpa using distinct
  have perm := foldl_insert_perm keys
  rwa [List.append_nil] at perm

/-- The entries of a sorted dictionary make it again, in whatever order they come. -/
theorem ofEntries_eq_of_perm (sorted : d.Sorted) (perm : entries.Perm d) : ofEntries entries = d := by
  have distinct := ((perm.map Prod.fst).nodup_iff).2 sorted.nodup
  refine List.Perm.eq_of_pairwise (fun a b _ _ before after => ?_) (ofEntries_sorted entries) sorted
    ((ofEntries_perm distinct).trans perm)
  exact absurd (lt_trans before after) (lt_irrefl _)

end ResourceTree.Dictionary
