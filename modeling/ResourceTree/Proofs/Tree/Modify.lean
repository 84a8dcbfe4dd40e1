import ResourceTree.Proofs.Tree.Fields
import ResourceTree.Proofs.Tree.Linkage

/-!
# Changes of children at two places

A change of the children of one node and a change of those of another, in a tree in which no uid
occurs twice. Where each of them spares the uid of the other's node, look-ups by that uid find the
node as before, and the two changes can be made in either order.
-/

namespace ResourceTree.Tree
set_option autoImplicit false

open Store (onChildren)

/-- A change of siblings that spares a uid: it leaves the node of that uid where it is, if it stands
among or below the siblings, and may be made before or after a change of that node's children. -/
structure Spares (uid : String) (f : List Tree → List Tree) (ts : List Tree) : Prop where
  found : findList? uid (f ts) = findList? uid ts
  child : (f ts).any (·.uid = uid) = ts.any (·.uid = uid)
  comm : ∀ g, f (modifyList uid (onChildren g) ts) = modifyList uid (onChildren g) (f ts)

theorem uid_onChildren (f : List Tree → List Tree) (t : Tree) : (onChildren f t).uid = t.uid := by
  cases t with
  | node r cs => rfl

/-! ## Distinct uids -/

/-- Uids are different if the root's is no other's and those below are different. -/
theorem nodup_node {r : Resource} {cs : List Tree} :
    (node r cs).uids.Nodup ↔
      r.uid ∉ (resourcesList cs).map (·.uid) ∧ ((resourcesList cs).map (·.uid)).Nodup := by
  rw [uids_eq_cons, List.nodup_cons]
  rfl

/-- Uids of siblings are different if those of each are, and no two share one. -/
theorem nodup_cons {t : Tree} {ts : List Tree} :
    ((resourcesList (t :: ts)).map (·.uid)).Nodup ↔
      t.uids.Nodup ∧ ((resourcesList ts).map (·.uid)).Nodup ∧
        ∀ uid ∈ t.uids, uid ∉ (resourcesList ts).map (·.uid) := by
  rw [resourcesList_cons, List.map_append, ← uids_eq_map, List.nodup_append]
  refine and_congr_right fun _ => and_congr_right fun _ => ?_
  constructor
  · intro apart uid here there
    exact apart uid here uid there rfl
  · rintro apart uid here _ there rfl
    exact apart uid here there

theorem mem_uidsList {ts : List Tree} {u : Tree} (h : u ∈ subtreesList ts) :
    u.uid ∈ (resourcesList ts).map (·.uid) := by
  rw [resourcesList, List.map_map]
  exact List.mem_map_of_mem h

mutual

/-- A node whose uid occurs once is found by it. -/
theorem find?_of_once {t u : Tree} (once : t.uids.count u.uid ≤ 1) (h : u ∈ t.subtrees) :
    t.find? u.uid = some u := by
  cases t with
  | node r cs =>
    rw [subtrees] at h
    rcases List.mem_cons.1 h with rfl | inside
    · rw [find?]
      exact if_pos rfl
    · have below := List.count_pos_iff.2 (mem_uidsList inside)
      rw [uids_eq_cons, List.count_cons] at once
      have rest : ((resourcesList cs).map (·.uid)).count u.uid ≤ 1 :=
        Nat.le_trans (Nat.le_add_right _ _) once
      have other : r.uid ≠ u.uid := by
        intro same
        have root : ((node r cs).uid == u.uid) = true := beq_iff_eq.2 same
        rw [root, if_pos rfl] at once
        exact absurd once (Nat.not_le.2 (Nat.succ_lt_succ below))
      rw [find?, if_neg other]
      exact findList?_of_once rest inside

theorem findList?_of_once {ts : List Tree} {u : Tree}
    (once : ((resourcesList ts).map (·.uid)).count u.uid ≤ 1) (h : u ∈ subtreesList ts) :
    findList? u.uid ts = some u := by
  cases ts with
  | nil => cases h
  | cons t ts =>
    rw [resourcesList_cons, List.map_append, ← uids_eq_map, List.count_append] at once
    rw [subtreesList] at h
    rcases List.mem_append.1 h with here | there
    · exact findList?_cons_of_some
        (find?_of_once (Nat.le_trans (Nat.le_add_right _ _) once) here)
    · have later := List.count_pos_iff.2 (mem_uidsList there)
      have absent : t.find? u.uid = none := by
        rw [find?_eq_none_iff]
        intro member
        have earlier := List.count_pos_iff.2 member
        omega
      rw [findList?_cons_of_none absent]
      exact findList?_of_once (Nat.le_trans (Nat.le_add_left _ _) once) there

end

/-- In a tree with distinct uids, every node is found by its own uid. -/
theorem find?_of_mem_subtrees {t u : Tree} (distinct : t.uids.Nodup) (h : u ∈ t.subtrees) :
    t.find? u.uid = some u :=
  find?_of_once (List.nodup_iff_count.1 distinct u.uid) h

mutual

/-- The children of a node that stands in a tree stand in the tree. -/
theorem child_mem_subtrees {t u c : Tree} (h : u ∈ t.subtrees) (child : c ∈ u.children) :
    c ∈ t.subtrees := by
  cases t with
  | node r cs =>
    rw [subtrees] at h ⊢
    refine List.mem_cons_of_mem _ ?_
    rcases List.mem_cons.1 h with rfl | inside
    · refine mem_subtreesList.2 ⟨c, child, ?_⟩
      cases c with
      | node r' cs' =>
        rw [subtrees]
        exact List.mem_cons_self
    · exact child_mem_subtreesList inside child

theorem child_mem_subtreesList {ts : List Tree} {u c : Tree} (h : u ∈ subtreesList ts)
    (child : c ∈ u.children) : c ∈ subtreesList ts := by
  cases ts with
  | nil => cases h
  | cons t ts =>
    rw [subtreesList] at h ⊢
    refine List.mem_append.2 ?_
    rcases List.mem_append.1 h with here | there
    · exact .inl (child_mem_subtrees here child)
    · exact .inr (child_mem_subtreesList there child)

end

/-! ## Changes at an absent uid -/

/-- A change at a uid that is not there changes nothing. -/
theorem modify_eq_self {uid : String} {f : Tree → Tree} {t : Tree} (absent : uid ∉ t.uids) :
    t.modify uid f = t := by
  refine modify_fixed fun u found => ?_
  cases found.symm.trans ((find?_eq_none_iff uid t).2 absent)

/-- A node that is found in a tree without some uid is not changed at that uid. -/
theorem map_modify_find? {p q : String} {f : Tree → Tree} {t : Tree} (absent : p ∉ t.uids) :
    (t.find? q).map (modify p f) = t.find? q := by
  cases found : t.find? q with
  | none => rfl
  | some u =>
    obtain ⟨before, after, eq, -⟩ := exists_context found
    refine congrArg some (modify_eq_self fun member => absent ?_)
    rw [uids_eq_map] at member ⊢
    rw [eq]
    simp [member]

theorem map_modify_findList? {p q : String} {f : Tree → Tree} {ts : List Tree}
    (absent : p ∉ (resourcesList ts).map (·.uid)) :
    (findList? q ts).map (modify p f) = findList? q ts := by
  cases found : findList? q ts with
  | none => rfl
  | some u =>
    obtain ⟨before, after, eq, -⟩ := exists_contextList found
    refine congrArg some (modify_eq_self fun member => absent ?_)
    rw [uids_eq_map] at member
    rw [eq]
    simp [member]

/-! ## Look-ups after a change -/

section Lookup

variable {p q : String} {f : List Tree → List Tree}

mutual

/-- A look-up after a change of children finds what it found before, with the change made in it. -/
theorem find?_modify {t : Tree} (distinct : t.uids.Nodup)
    (spared : q ≠ p → ∀ u, t.find? p = some u → findList? q (f u.children) = findList? q u.children) :
    (t.modify p (onChildren f)).find? q = (t.find? q).map (modify p (onChildren f)) := by
  cases t with
  | node r cs =>
    obtain ⟨once, below⟩ := nodup_node.1 distinct
    by_cases sought : r.uid = q
    · have root : (((node r cs).modify p (onChildren f)).resource).uid = q := by
        rw [resource_modify_onChildren]
        exact sought
      rw [find?, if_pos sought, Option.map_some]
      generalize (node r cs).modify p (onChildren f) = changed at root
      cases changed with
      | node r' cs' =>
        rw [find?]
        exact if_pos root
    · by_cases here : r.uid = p
      · have kept := spared (fun same => sought (here.trans same.symm)) (node r cs)
          (by rw [find?, if_pos here])
        rw [modify, if_pos here, onChildren, find?, find?, if_neg sought, if_neg sought,
          map_modify_findList? (here ▸ once)]
        exact kept
      · rw [modify, if_neg here, find?, find?, if_neg sought, if_neg sought]
        refine findList?_modifyList below fun other u found => spared other u ?_
        rw [find?, if_neg here]
        exact found

/-- In siblings, too, what a change spares is found as before. -/
theorem findList?_modifyList {ts : List Tree} (distinct : ((resourcesList ts).map (·.uid)).Nodup)
    (spared : q ≠ p → ∀ u, findList? p ts = some u →
      findList? q (f u.children) = findList? q u.children) :
    findList? q (modifyList p (onChildren f) ts) =
      (findList? q ts).map (modify p (onChildren f)) := by
  cases ts with
  | nil => rfl
  | cons t ts =>
    obtain ⟨own, rest, apart⟩ := nodup_cons.1 distinct
    cases present : t.find? p with
    | some u =>
      have elsewhere : p ∉ (resourcesList ts).map (·.uid) :=
        apart p (contains_iff.1 (by rw [contains, present]; rfl))
      rw [modifyList_cons_of_some present, findList?, findList?, find?_modify own fun other u found =>
        spared other u (findList?_cons_of_some found)]
      cases t.find? q with
      | some v => rfl
      | none =>
        rw [Option.map_none, Option.none_or]
        exact (map_modify_findList? elsewhere).symm
    | none =>
      have missing : p ∉ t.uids := (find?_eq_none_iff p t).1 present
      rw [modifyList_cons_of_none present, findList?, findList?,
        findList?_modifyList rest fun other u found =>
          spared other u (by rw [findList?_cons_of_none present, found])]
      have same := map_modify_find? (f := onChildren f) (q := q) missing
      cases found : t.find? q with
      | some v =>
        rw [found] at same
        exact same.symm
      | none => rw [Option.none_or, Option.none_or]

end

/-- Siblings keep their own resources when the children of a node among or below them change. -/
theorem map_resource_modifyList (ts : List Tree) :
    (modifyList p (onChildren f) ts).map resource = ts.map resource := by
  induction ts with
  | nil => rfl
  | cons t ts ih =>
    rw [modifyList]
    split
    · rw [List.map_cons, List.map_cons, resource_modify_onChildren]
    · rw [List.map_cons, List.map_cons, ih]

theorem any_uid_modifyList (uid : String) (ts : List Tree) :
    (modifyList p (onChildren f) ts).any (·.uid = uid) = ts.any (·.uid = uid) := by
  have named : ∀ us : List Tree,
      us.any (·.uid = uid) = (us.map resource).any fun r => r.uid = uid := by
    intro us
    rw [List.any_map]
    rfl
  rw [named, named, map_resource_modifyList]

end Lookup

/-! ## Two changes -/

section Two

variable {p q : String} {f g : List Tree → List Tree}

/-- A change that spares a uid neither hides it nor brings it in. -/
theorem isSome_find?_modify {t : Tree} (distinct : t.uids.Nodup)
    (spares : ∀ u, t.find? p = some u → Spares q f u.children) :
    ((t.modify p (onChildren f)).find? q).isSome = (t.find? q).isSome := by
  rw [find?_modify distinct fun _ u found => (spares u found).found, Option.isSome_map]

mutual

/-- Changes of the children of two nodes can be made in either order if each spares the other. -/
theorem modify_comm {t : Tree} (distinct : t.uids.Nodup) (other : p ≠ q)
    (left : ∀ u, t.find? p = some u → Spares q f u.children)
    (right : ∀ u, t.find? q = some u → Spares p g u.children) :
    (t.modify p (onChildren f)).modify q (onChildren g) =
      (t.modify q (onChildren g)).modify p (onChildren f) := by
  cases t with
  | node r cs =>
    by_cases atLeft : r.uid = p
    · have notRight : r.uid ≠ q := fun same => other (atLeft.symm.trans same)
      have spares := left (node r cs) (by rw [find?, if_pos atLeft])
      rw [modify, if_pos atLeft, modify, if_neg notRight, onChildren, modify, if_neg notRight,
        modify, if_pos atLeft, onChildren]
      exact congrArg (node r) (spares.comm g).symm
    · by_cases atRight : r.uid = q
      · have spares := right (node r cs) (by rw [find?, if_pos atRight])
        rw [modify, if_neg atLeft, modify, if_pos atRight, modify, if_pos atRight, onChildren,
          onChildren, modify, if_neg atLeft]
        exact congrArg (node r) (spares.comm f)
      · rw [find?, if_neg atLeft] at left
        rw [find?, if_neg atRight] at right
        rw [modify, if_neg atLeft, modify, if_neg atRight, modify, if_neg atRight, modify,
          if_neg atLeft]
        exact congrArg (node r) (modifyList_comm (nodup_node.1 distinct).2 other left right)

/-- In siblings, too, changes at different uids may change places. -/
theorem modifyList_comm {ts : List Tree} (distinct : ((resourcesList ts).map (·.uid)).Nodup)
    (other : p ≠ q) (left : ∀ u, findList? p ts = some u → Spares q f u.children)
    (right : ∀ u, findList? q ts = some u → Spares p g u.children) :
    modifyList q (onChildren g) (modifyList p (onChildren f) ts) =
      modifyList p (onChildren f) (modifyList q (onChildren g) ts) := by
  cases ts with
  | nil => rfl
  | cons t ts =>
    obtain ⟨own, rest, -⟩ := nodup_cons.1 distinct
    have leftHere : ∀ u, t.find? p = some u → Spares q f u.children :=
      fun u found => left u (findList?_cons_of_some found)
    have rightHere : ∀ u, t.find? q = some u → Spares p g u.children :=
      fun u found => right u (findList?_cons_of_some found)
    -- neither change moves the uid of the other into or out of the first tree
    have rightStays := find?_modify own fun _ u found => (leftHere u found).found
    have leftStays := find?_modify own fun _ u found => (rightHere u found).found
    cases onLeft : t.find? p with
    | some u =>
      rw [onLeft, Option.map_some] at leftStays
      cases onRight : t.find? q with
      | some v =>
        rw [onRight, Option.map_some] at rightStays
        rw [modifyList_cons_of_some onLeft, modifyList_cons_of_some onRight,
          modifyList_cons_of_some rightStays, modifyList_cons_of_some leftStays,
          modify_comm own other leftHere rightHere]
      | none =>
        rw [onRight, Option.map_none] at rightStays
        rw [modifyList_cons_of_some onLeft, modifyList_cons_of_none onRight,
          modifyList_cons_of_none rightStays, modifyList_cons_of_some onLeft]
    | none =>
      rw [onLeft, Option.map_none] at leftStays
      cases onRight : t.find? q with
      | some v =>
        rw [modifyList_cons_of_none onLeft, modifyList_cons_of_some onRight,
          modifyList_cons_of_some onRight, modifyList_cons_of_none leftStays]
      | none =>
        rw [findList?_cons_of_none onLeft] at left
        rw [findList?_cons_of_none onRight] at right
        rw [modifyList_cons_of_none onLeft, modifyList_cons_of_none onRight,
          modifyList_cons_of_none onRight, modifyList_cons_of_none onLeft,
          modifyList_comm rest other left right]

end

/-- Two changes of the children of one node are one change. -/
theorem modify_modify (t : Tree) :
    (t.modify p (onChildren f)).modify p (onChildren g) =
      t.modify p (onChildren fun ts => g (f ts)) := by
  rw [modify_modify_here (uid_onChildren f)]
  refine congrArg (t.modify p) (funext fun u => ?_)
  cases u with
  | node r cs => rfl

end Two

end ResourceTree.Tree

namespace ResourceTree.Store

/-- A parent is found again after its children have changed. -/
theorem parentOf_changeChildren {s : Store} {parentId : Option String} {p : Tree}
    (parent : s.parentOf parentId = .ok p) (f : List Tree → List Tree) :
    (s.changeChildren p f).parentOf parentId = .ok (onChildren f p) := by
  obtain ⟨rfl, found, alive⟩ := parentOf_eq_ok parent
  have changed := Tree.find?_modify_here (Tree.uid_onChildren f) p.uid s.tree
  rw [found, Option.map_some] at changed
  have same : (onChildren f p).resource = p.resource := by
    cases p with
    | node r cs => rfl
  exact parentOf_of_found changed (same ▸ alive)

end ResourceTree.Store
