import ResourceTree.Tree.Basic

/-!
# Equality of trees

The comparison of two trees, node by node, holds exactly of equal trees, so that equations between
trees can be decided.
-/

namespace ResourceTree.Tree
set_option autoImplicit false

mutual

/-- Trees that compare equal are equal. -/
theorem eq_of_beq {t u : Tree} (h : beq t u = true) : t = u := by
  cases t with
  | node r cs =>
    cases u with
    | node r' cs' =>
      rw [beq, Bool.and_eq_true, decide_eq_true_eq] at h
      rw [h.1, eq_of_beqList h.2]

theorem eq_of_beqList {ts us : List Tree} (h : beqList ts us = true) : ts = us := by
  cases ts with
  | nil =>
    cases us with
    | nil => rfl
    | cons u us => cases h
  | cons t ts =>
    cases us with
    | nil => cases h
    | cons u us =>
      rw [beqList, Bool.and_eq_true] at h
      rw [eq_of_beq h.1, eq_of_beqList h.2]

end

mutual

/-- A tree compares equal to itself. -/
theorem beq_rfl (t : Tree) : beq t t = true := by
  cases t with
  | node r cs =>
    rw [beq, Bool.and_eq_true, decide_eq_true_eq]
    exact ⟨rfl, beqList_rfl cs⟩

theorem beqList_rfl (ts : List Tree) : beqList ts ts = true := by
  cases ts with
  | nil => rfl
  | cons t ts =>
    rw [beqList, Bool.and_eq_true]
    exact ⟨beq_rfl t, beqList_rfl ts⟩

end

instance : LawfulBEq Tree where
  eq_of_beq := eq_of_beq
  rfl := beq_rfl _

instance : DecidableEq Tree := fun t u => decidable_of_iff ((t == u) = true) beq_iff_eq

end ResourceTree.Tree
