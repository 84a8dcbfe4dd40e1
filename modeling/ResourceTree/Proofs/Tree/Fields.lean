import ResourceTree.Proofs.Tree.Logs
import ResourceTree.Proofs.Tree.OnePlace

/-!
# Changes of single resources

Flags and log lines are changes of the resource of one node. Such changes leave every uid in its
place, so look-ups find the same nodes after them, and two changes that commute on a resource commute
on trees, whether they are made at one uid or at two and whether or not the uids are distinct.
-/

namespace ResourceTree.Tree
set_option autoImplicit false

/-- A tree with its own resource changed. -/
def onResource (f : Resource → Resource) : Tree → Tree
  | node r cs => node (f r) cs

/-- The resource that a uid stands for. -/
def resource? (uid : String) (t : Tree) : Option Resource := (t.find? uid).map resource

variable {f g : Resource → Resource}

theorem uid_onResource (kept : ∀ r, (f r).uid = r.uid) (t : Tree) : (onResource f t).uid = t.uid := by
  cases t with
  | node r cs => exact kept r

/-- A change of fields keeps every uid in its place. -/
theorem uids_modify_onResource (kept : ∀ r, (f r).uid = r.uid) (uid : String) (t : Tree) :
    (t.modify uid (onResource f)).uids = t.uids := by
  -- what is left of a resource here is its uid, and that is not changed
  let named : Resource → Resource := fun r => { Resource.placeholder with uid := r.uid }
  have unseen : ∀ t : Tree, (onResource f t).map named = t.map named := by
    intro t
    cases t with
    | node r cs => simp only [onResource, map, named, kept]
  have names : ∀ t : Tree, (t.map named).uids = t.uids := uids_map fun _ => rfl
  rw [← names, map_modify unseen, names]

/-- A change of fields hides no node. -/
theorem isSome_find?_onResource (kept : ∀ r, (f r).uid = r.uid) (p q : String) (t : Tree) :
    ((t.modify q (onResource f)).find? p).isSome = (t.find? p).isSome := by
  rw [Bool.eq_iff_iff, ← contains, ← contains, contains_iff, contains_iff,
    uids_modify_onResource kept]

mutual

/-- A look-up after a change finds the changed resource at the uid of the change, and elsewhere what
it found before. -/
theorem resource?_modify (kept : ∀ r, (f r).uid = r.uid) (p q : String) (t : Tree) :
    (t.modify q (onResource f)).resource? p =
      (t.resource? p).map (if p = q then f else id) := by
  cases t with
  | node r cs =>
    rw [resource?, resource?]
    by_cases here : r.uid = q
    · rw [modify, if_pos here, onResource, find?, find?, kept]
      by_cases sought : r.uid = p
      · rw [if_pos sought, if_pos sought, Option.map_some, Option.map_some, Option.map_some,
          if_pos (sought.symm.trans here)]
        rfl
      · rw [if_neg sought, if_neg sought,
          if_neg fun same : p = q => sought (here.trans same.symm)]
        rw [Option.map_id, id]
    · rw [modify, if_neg here, find?, find?]
      by_cases sought : r.uid = p
      · rw [if_pos sought, if_pos sought, Option.map_some, Option.map_some, Option.map_some,
          if_neg fun same : p = q => here (sought.trans same)]
        rfl
      · rw [if_neg sought, if_neg sought]
        exact resource?_modifyList kept p q cs

/-- In siblings a change of fields is seen at its own uid alone. -/
theorem resource?_modifyList (kept : ∀ r, (f r).uid = r.uid) (p q : String) (ts : List Tree) :
    (findList? p (modifyList q (onResource f) ts)).map resource =
      ((findList? p ts).map resource).map (if p = q then f else id) := by
  cases ts with
  | nil => rfl
  | cons t ts =>
    have first := resource?_modify kept p q t
    rw [resource?, resource?] at first
    cases changed : t.find? q with
    | some u =>
      rw [modifyList_cons_of_some changed, findList?, findList?, Option.map_or, Option.map_or, first]
      cases found : t.find? p with
      | some v => rfl
      | none =>
        have other : p ≠ q := by
          rintro rfl
          cases found.symm.trans changed
        simp [other]
    | none =>
      rw [modifyList_cons_of_none changed, findList?, findList?, Option.map_or, Option.map_or,
        resource?_modifyList kept p q ts]
      cases found : t.find? p with
      | some v =>
        have other : p ≠ q := by
          rintro rfl
          cases found.symm.trans changed
        simp [other]
      | none => rfl

end

mutual

/-- Changes that commute on a resource commute on trees. -/
theorem modify_comm_onResource (kept : ∀ r, (f r).uid = r.uid) (kept' : ∀ r, (g r).uid = r.uid)
    (comm : ∀ r, g (f r) = f (g r)) (p q : String) (t : Tree) :
    (t.modify p (onResource f)).modify q (onResource g) =
      (t.modify q (onResource g)).modify p (onResource f) := by
  cases t with
  | node r cs =>
    by_cases left : r.uid = p
    · rw [modify, if_pos left, onResource, modify, kept]
      by_cases right : r.uid = q
      · rw [if_pos right, modify, if_pos right, onResource, onResource, modify, kept', if_pos left,
          onResource, comm]
      · rw [if_neg right, modify, if_neg right, modify, if_pos left, onResource]
    · rw [modify, if_neg left, modify]
      by_cases right : r.uid = q
      · rw [if_pos right, modify, if_pos right, onResource, onResource, modify, kept', if_neg left]
      · rw [if_neg right, modify, if_neg right, modify, if_neg left,
          modifyList_comm_onResource kept kept' comm p q cs]

/-- In siblings two changes of fields that commute may change places. -/
theorem modifyList_comm_onResource (kept : ∀ r, (f r).uid = r.uid)
    (kept' : ∀ r, (g r).uid = r.uid) (comm : ∀ r, g (f r) = f (g r)) (p q : String)
    (ts : List Tree) :
    modifyList q (onResource g) (modifyList p (onResource f) ts) =
      modifyList p (onResource f) (modifyList q (onResource g) ts) := by
  cases ts with
  | nil => rfl
  | cons t ts =>
    have right := isSome_find?_onResource kept q p t
    have left := isSome_find?_onResource kept' p q t
    by_cases atLeft : (t.find? p).isSome = true
    · by_cases atRight : (t.find? q).isSome = true
      · rw [modifyList, if_pos atLeft, modifyList, right, if_pos atRight, modifyList, if_pos atRight,
          modifyList, left, if_pos atLeft, modify_comm_onResource kept kept' comm p q t]
      · rw [modifyList, if_pos atLeft, modifyList, right, if_neg atRight, modifyList, if_neg atRight,
          modifyList, if_pos atLeft]
    · by_cases atRight : (t.find? q).isSome = true
      · rw [modifyList, if_neg atLeft, modifyList, if_pos atRight, modifyList, if_pos atRight,
          modifyList, left, if_neg atLeft]
      · rw [modifyList, if_neg atLeft, modifyList, if_neg atRight, modifyList, if_neg atRight,
          modifyList, if_neg atLeft, modifyList_comm_onResource kept kept' comm p q ts]

end

end ResourceTree.Tree
