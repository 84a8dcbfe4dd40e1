import ResourceTree.Tree.Walk

/-!
# What a look-up finds, and what a change at it does

The resources of a tree in pre-order are the view through which look-ups and changes are compared.
A uid is found exactly when it is among the uids. `exists_first_context` says where: the resources of
the node that is found are one run of the resources of the whole, the uid does not occur before it, and
a change at the uid replaces that run and nothing else.
-/

namespace ResourceTree.Tree
set_option autoImplicit false

/-- All resources of siblings in pre-order. -/
def resourcesList (ts : List Tree) : List Resource := (subtreesList ts).map resource

/-- The root comes first, then all that is below it. -/
@[simp] theorem resources_node (r : Resource) (cs : List Tree) :
    (node r cs).resources = r :: resourcesList cs := by
  simp [resources, resourcesList, subtrees, resource]

@[simp] theorem resourcesList_nil : resourcesList [] = [] := rfl

@[simp] theorem resourcesList_cons (t : Tree) (ts : List Tree) :
    resourcesList (t :: ts) = t.resources ++ resourcesList ts := by
  simp [resources, resourcesList, subtreesList]

@[simp] theorem resourcesList_append (ts us : List Tree) :
    resourcesList (ts ++ us) = resourcesList ts ++ resourcesList us := by
  induction ts with
  | nil => simp
  | cons t ts ih => simp [ih]

/-- A tree is its root above its children. -/
theorem resources_eq_cons (t : Tree) : t.resources = t.resource :: resourcesList t.children := by
  cases t with
  | node r cs => simp [resource, children]

/-- The uids of a tree are those of its records, in order. -/
theorem uids_eq_map (t : Tree) : t.uids = t.resources.map (·.uid) := by
  simp only [uids, resources, List.map_map]
  rfl

/-- The uid of the root comes first. -/
theorem uids_eq_cons (t : Tree) : t.uids = t.uid :: (resourcesList t.children).map (·.uid) := by
  rw [uids_eq_map, resources_eq_cons, List.map_cons]
  rfl

theorem uid_mem_uids (t : Tree) : t.uid ∈ t.uids := by
  rw [uids_eq_cons]
  exact List.mem_cons_self

/-! ## Look-ups -/

section Siblings

variable {uid : String} {t u : Tree} {ts : List Tree}

/-- What the first tree holds is found there. -/
theorem findList?_cons_of_some (h : t.find? uid = some u) : findList? uid (t :: ts) = some u := by
  rw [findList?, h, Option.some_or]

/-- What the first tree does not hold is looked for in the others. -/
theorem findList?_cons_of_none (h : t.find? uid = none) :
    findList? uid (t :: ts) = findList? uid ts := by
  rw [findList?, h, Option.none_or]

/-- A change among siblings is made in the first tree that has the uid. -/
theorem modifyList_cons_of_some {f : Tree → Tree} (h : t.find? uid = some u) :
    modifyList uid f (t :: ts) = t.modify uid f :: ts := by
  rw [modifyList, h, Option.isSome_some, if_pos rfl]

theorem modifyList_cons_of_none {f : Tree → Tree} (h : t.find? uid = none) :
    modifyList uid f (t :: ts) = t :: modifyList uid f ts := by
  rw [modifyList, h, Option.isSome_none, if_neg Bool.false_ne_true]

end Siblings

mutual

/-- A uid is looked up in vain exactly if the tree does not have it. -/
theorem find?_eq_none_iff (uid : String) (t : Tree) : t.find? uid = none ↔ uid ∉ t.uids := by
  cases t with
  | node r cs =>
    have below := findList?_eq_none_iff uid cs
    rw [uids_eq_map]
    by_cases here : r.uid = uid
    · simp [find?, here]
    · have other : ¬ uid = r.uid := fun h => here h.symm
      simp only [find?, here, if_false, below, resources_node, List.map_cons, List.mem_cons, other,
        false_or]

theorem findList?_eq_none_iff (uid : String) (ts : List Tree) :
    findList? uid ts = none ↔ uid ∉ (resourcesList ts).map (·.uid) := by
  cases ts with
  | nil => simp [findList?]
  | cons t ts =>
    simp only [findList?, Option.or_eq_none_iff, find?_eq_none_iff uid t, uids_eq_map,
      findList?_eq_none_iff uid ts, resourcesList_cons, List.map_append, List.mem_append, not_or]

end

/-- A tree contains the uids it has. -/
theorem contains_iff {uid : String} {t : Tree} : t.contains uid = true ↔ uid ∈ t.uids := by
  rw [contains, Option.isSome_iff_ne_none, ne_eq, find?_eq_none_iff, Classical.not_not]

mutual

/-- What is found has the uid that was looked up. -/
theorem find?_uid {uid : String} {t p : Tree} (h : t.find? uid = some p) : p.uid = uid := by
  cases t with
  | node r cs =>
    simp only [find?] at h
    split at h
    · next here => cases h; exact here
    · exact findList?_uid h

theorem findList?_uid {uid : String} {ts : List Tree} {p : Tree} (h : findList? uid ts = some p) :
    p.uid = uid := by
  cases ts with
  | nil => simp [findList?] at h
  | cons t ts =>
    simp only [findList?, Option.or_eq_some_iff] at h
    rcases h with h | ⟨_, h⟩
    · exact find?_uid h
    · exact findList?_uid h

end

mutual

/-- What is found stands in the tree. -/
theorem find?_mem_subtrees {uid : String} {t p : Tree} (h : t.find? uid = some p) :
    p ∈ t.subtrees := by
  cases t with
  | node r cs =>
    rw [subtrees]
    simp only [find?] at h
    split at h
    · cases h; exact List.mem_cons_self
    · exact List.mem_cons_of_mem _ (findList?_mem_subtrees h)

theorem findList?_mem_subtrees {uid : String} {ts : List Tree} {p : Tree}
    (h : findList? uid ts = some p) : p ∈ subtreesList ts := by
  cases ts with
  | nil => simp [findList?] at h
  | cons t ts =>
    rw [subtreesList, List.mem_append]
    simp only [findList?, Option.or_eq_some_iff] at h
    rcases h with h | ⟨_, h⟩
    · exact .inl (find?_mem_subtrees h)
    · exact .inr (findList?_mem_subtrees h)

end

/-! ## Changes -/

mutual

/-- The node that is found is the first one of its uid in pre-order, and the resources around it stay
where they are under any change at the uid. -/
theorem exists_first_context {uid : String} {t p : Tree} (h : t.find? uid = some p) :
    ∃ before after, uid ∉ before.map (·.uid) ∧ t.resources = before ++ p.resources ++ after ∧
      ∀ f, (t.modify uid f).resources = before ++ (f p).resources ++ after := by
  cases t with
  | node r cs =>
    simp only [find?] at h
    split at h
    · next here =>
      cases h
      exact ⟨[], [], by simp, by simp, fun f => by simp [modify, here]⟩
    · next other =>
      obtain ⟨before, after, first, eq, changed⟩ := exists_first_contextList h
      refine ⟨r :: before, after, ?_, by simp [eq], fun f => ?_⟩
      · simp [Ne.symm other, first]
      · simp [modify, other, changed f]

theorem exists_first_contextList {uid : String} {ts : List Tree} {p : Tree}
    (h : findList? uid ts = some p) :
    ∃ before after, uid ∉ before.map (·.uid) ∧ resourcesList ts = before ++ p.resources ++ after ∧
      ∀ f, resourcesList (modifyList uid f ts) = before ++ (f p).resources ++ after := by
  cases ts with
  | nil => simp [findList?] at h
  | cons t ts =>
    simp only [findList?, Option.or_eq_some_iff] at h
    rcases h with h | ⟨absent, h⟩
    · obtain ⟨before, after, first, eq, changed⟩ := exists_first_context h
      refine ⟨before, after ++ resourcesList ts, first, by simp [eq], fun f => ?_⟩
      simp [modifyList, h, changed f]
    · obtain ⟨before, after, first, eq, changed⟩ := exists_first_contextList h
      refine ⟨t.resources ++ before, after, ?_, by simp [eq], fun f => ?_⟩
      · rw [find?_eq_none_iff, uids_eq_map] at absent
        rw [List.map_append, List.mem_append, not_or]
        exact ⟨absent, first⟩
      · simp [modifyList, absent, changed f]

end

/-- The resources around the node of a uid stay where they are under any change at the uid. -/
theorem exists_context {uid : String} {t p : Tree} (h : t.find? uid = some p) :
    ∃ before after, t.resources = before ++ p.resources ++ after ∧
      ∀ f, (t.modify uid f).resources = before ++ (f p).resources ++ after := by
  obtain ⟨before, after, -, eq, changed⟩ := exists_first_context h
  exact ⟨before, after, eq, changed⟩

theorem exists_contextList {uid : String} {ts : List Tree} {p : Tree}
    (h : findList? uid ts = some p) :
    ∃ before after, resourcesList ts = before ++ p.resources ++ after ∧
      ∀ f, resourcesList (modifyList uid f ts) = before ++ (f p).resources ++ after := by
  obtain ⟨before, after, -, eq, changed⟩ := exists_first_contextList h
  exact ⟨before, after, eq, changed⟩

end ResourceTree.Tree
