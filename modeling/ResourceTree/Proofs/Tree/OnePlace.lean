import ResourceTree.Proofs.Tree.Lookup

/-!
# Changes at one place

A change at a uid and the look-up of that uid reach the same node. If the change leaves the node its
uid, a look-up after it finds what the change has made, a second change is one with the first, and
the tree is as before only if the node is. No uid has to be distinct for that.
-/

namespace ResourceTree.Tree
set_option autoImplicit false

variable {uid : String} {f g : Tree → Tree}

mutual

/-- A change that does nothing to the node of its uid does nothing to the tree. -/
theorem modify_fixed {t : Tree} (fixed : ∀ u, t.find? uid = some u → f u = u) :
    t.modify uid f = t := by
  cases t with
  | node r cs =>
    by_cases here : r.uid = uid
    · rw [modify, if_pos here]
      exact fixed _ (by rw [find?, if_pos here])
    · rw [find?, if_neg here] at fixed
      rw [modify, if_neg here, modifyList_fixed fixed]

theorem modifyList_fixed {ts : List Tree} (fixed : ∀ u, findList? uid ts = some u → f u = u) :
    modifyList uid f ts = ts := by
  cases ts with
  | nil => rfl
  | cons t ts =>
    cases found : t.find? uid with
    | some u =>
      rw [modifyList_cons_of_some found, modify_fixed fun v there =>
        fixed v (findList?_cons_of_some there)]
    | none =>
      rw [findList?_cons_of_none found] at fixed
      rw [modifyList_cons_of_none found, modifyList_fixed fixed]

end

/-- The root of a changed tree is found by the uid that it had. -/
theorem find?_of_kept (kept : ∀ u, (f u).uid = u.uid) {t : Tree} (here : t.uid = uid) :
    (f t).find? uid = some (f t) := by
  have own := (kept t).trans here
  cases changed : f t with
  | node r cs =>
    rw [changed] at own
    rw [find?]
    exact if_pos own

mutual

/-- A look-up after a change at its uid finds the changed node. -/
theorem find?_modify_here (kept : ∀ u, (f u).uid = u.uid) (uid : String) (t : Tree) :
    (t.modify uid f).find? uid = (t.find? uid).map f := by
  cases t with
  | node r cs =>
    by_cases here : r.uid = uid
    · rw [modify, if_pos here, find?, if_pos here, Option.map_some]
      exact find?_of_kept kept here
    · rw [modify, if_neg here, find?, if_neg here, find?, if_neg here,
        findList?_modifyList_here kept uid cs]

theorem findList?_modifyList_here (kept : ∀ u, (f u).uid = u.uid) (uid : String) (ts : List Tree) :
    findList? uid (modifyList uid f ts) = (findList? uid ts).map f := by
  cases ts with
  | nil => rfl
  | cons t ts =>
    cases found : t.find? uid with
    | some u =>
      have changed := find?_modify_here kept uid t
      rw [found, Option.map_some] at changed
      rw [modifyList_cons_of_some found, findList?_cons_of_some changed,
        findList?_cons_of_some found, Option.map_some]
    | none =>
      rw [modifyList_cons_of_none found, findList?_cons_of_none found, findList?_cons_of_none found,
        findList?_modifyList_here kept uid ts]

end

mutual

/-- Two changes at one uid are one change. -/
theorem modify_modify_here (kept : ∀ u, (f u).uid = u.uid) (uid : String) (t : Tree) :
    (t.modify uid f).modify uid g = t.modify uid fun u => g (f u) := by
  cases t with
  | node r cs =>
    by_cases here : r.uid = uid
    · rw [modify, if_pos here, modify, if_pos here]
      have own : (f (node r cs)).uid = uid := (kept _).trans here
      generalize f (node r cs) = changed at own
      cases changed with
      | node r' cs' =>
        rw [modify]
        exact if_pos own
    · rw [modify, if_neg here, modify, if_neg here, modify, if_neg here,
        modifyList_modifyList_here kept uid cs]

theorem modifyList_modifyList_here (kept : ∀ u, (f u).uid = u.uid) (uid : String)
    (ts : List Tree) :
    modifyList uid g (modifyList uid f ts) = modifyList uid (fun u => g (f u)) ts := by
  cases ts with
  | nil => rfl
  | cons t ts =>
    cases found : t.find? uid with
    | some u =>
      have changed := find?_modify_here kept uid t
      rw [found, Option.map_some] at changed
      rw [modifyList_cons_of_some found, modifyList_cons_of_some changed,
        modifyList_cons_of_some found, modify_modify_here kept uid t]
    | none =>
      rw [modifyList_cons_of_none found, modifyList_cons_of_none found,
        modifyList_cons_of_none found, modifyList_modifyList_here kept uid ts]

end

/-- A tree is as before a change exactly if the node at its uid is. -/
theorem modify_eq_self_iff (kept : ∀ u, (f u).uid = u.uid) (uid : String) (t : Tree) :
    t.modify uid f = t ↔ ∀ u, t.find? uid = some u → f u = u := by
  constructor
  · intro same u found
    have changed := find?_modify_here kept uid t
    rw [same, found, Option.map_some] at changed
    exact (Option.some.inj changed).symm
  · exact modify_fixed

end ResourceTree.Tree
