import ResourceTree.Proofs.Tree.Occurrences
import ResourceTree.Proofs.Tree.Preorder
import ResourceTree.Proofs.Tree.Uniqueness

/-!
# What stands above a node

The search for the reconciled nodes above a uid keeps a path that it extends on its way down and cuts back
on its way up. Whatever the path is at first, a search that fails leaves it so, and one that succeeds
leaves on it what stands above the first occurrence of the uid, the one that look-ups find.
-/

namespace ResourceTree.Tree
set_option autoImplicit false

/-- Resources that lead from the root of a tree down to a node, each the parent of the next one and the
last the parent of the node. -/
inductive Leads (t : Tree) : List Resource → Tree → Prop where
  | root : Leads t [] t
  | child {above : List Resource} {u c : Tree} (here : Leads t above u) (member : c ∈ u.children) :
      Leads t (above ++ [u.resource]) c

variable {uid : String} {t : Tree}

/-- What an occurrence has above it leads to it. -/
theorem leads_of_mem_occurrences {o : Occurrence} (member : o ∈ t.occurrences) :
    t.Leads o.above o.tree := by
  have within : ∀ p : Occurrence, t.Leads p.above p.tree →
      ∀ o ∈ p.within, t.Leads o.above o.tree := by
    intro p
    induction p using Occurrence.induction with
    | step p ih =>
      intro here o inside
      rcases Occurrence.mem_within.1 inside with rfl | ⟨c, child, below⟩
      · exact here
      · refine ih c child ?_ o below
        rw [Occurrence.above_child child]
        exact .child here (Occurrence.tree_child child)
  exact within ⟨[], t⟩ .root o member

/-- A look-up finds the first occurrence. -/
theorem find?_eq_occurrences (uid : String) (t : Tree) :
    t.find? uid = (t.occurrences.find? (·.uid = uid)).map (·.tree) := by
  have trees : t.occurrences.map Occurrence.tree = t.subtrees := Occurrence.map_tree_within ⟨[], t⟩
  rw [find?_eq_subtrees, ← trees, List.find?_map]
  rfl

mutual

/-- A search leaves the path as it was, or with what stands above the first occurrence. -/
theorem searchPath_eq (uid : String) (path : List Resource) (t : Tree) :
    t.searchPath uid path =
      ((t.occurrencesBelow path).find? (·.uid = uid)).elim (false, path) fun o => (true, o.above) := by
  cases t with
  | node r cs =>
    rw [searchPath, occurrencesBelow, List.find?_cons, Occurrence.uid, uid_node]
    by_cases here : r.uid = uid
    · rw [if_pos here, decide_eq_true here]
      rfl
    · rw [if_neg here, decide_eq_false here, searchPathList_eq uid (path ++ [r]) cs]
      cases (occurrencesBelowList (path ++ [r]) cs).find? (·.uid = uid) with
      | some o => rfl
      | none =>
        -- The children left the path as they got it, so its last member is this node.
        simp only [Option.elim_none]
        rw [List.dropLast_concat]

theorem searchPathList_eq (uid : String) (path : List Resource) (ts : List Tree) :
    searchPathList uid path ts =
      ((occurrencesBelowList path ts).find? (·.uid = uid)).elim (false, path)
        fun o => (true, o.above) := by
  cases ts with
  | nil => rfl
  | cons t ts =>
    rw [searchPathList, occurrencesBelowList, List.find?_append, searchPath_eq uid path t]
    cases (t.occurrencesBelow path).find? (·.uid = uid) with
    | some o => rfl
    | none => exact searchPathList_eq uid path ts

end

mutual

/-- Nothing above the first occurrence of a uid has the uid, unless it stood on the path before. -/
theorem uid_ne_of_above {path : List Resource} {t : Tree} {o : Occurrence}
    (first : (t.occurrencesBelow path).find? (·.uid = uid) = some o) :
    ∀ r ∈ o.above, r ∈ path ∨ r.uid ≠ uid := by
  cases t with
  | node r cs =>
    rw [occurrencesBelow, List.find?_cons, Occurrence.uid, uid_node] at first
    by_cases here : r.uid = uid
    · rw [decide_eq_true here] at first
      cases first
      exact fun _ member => .inl member
    · rw [decide_eq_false here] at first
      intro above member
      rcases uid_ne_of_above_list first above member with known | other
      · rcases List.mem_append.1 known with before | this
        · exact .inl before
        · exact .inr (List.mem_singleton.1 this ▸ here)
      · exact .inr other

theorem uid_ne_of_above_list {path : List Resource} {ts : List Tree} {o : Occurrence}
    (first : (occurrencesBelowList path ts).find? (·.uid = uid) = some o) :
    ∀ r ∈ o.above, r ∈ path ∨ r.uid ≠ uid := by
  cases ts with
  | nil => cases first
  | cons t ts =>
    rw [occurrencesBelowList, List.find?_append] at first
    rcases Option.or_eq_some_iff.1 first with here | ⟨-, later⟩
    · exact uid_ne_of_above here
    · exact uid_ne_of_above_list later

end

/-- The reconciled nodes above a uid are those among what leads from the root to the first occurrence of
the uid, in this order, and there are none for the empty uid and for one that does not occur. The node
itself is not among them. -/
theorem fluxParents_eq (uid : String) (t : Tree) :
    (∀ o ∈ t.occurrences, t.Leads o.above o.tree) ∧
    t.find? uid = (t.occurrences.find? (·.uid = uid)).map (·.tree) ∧
    t.fluxParents uid = (if uid = "" then [] else
      ((t.occurrences.find? (·.uid = uid)).elim [] Occurrence.above).filter
        (·.metadata.flux?.isSome)) ∧
    (uid = "" ∨ uid ∉ t.uids → t.fluxParents uid = []) ∧
    ∀ r ∈ t.fluxParents uid, r.uid ≠ uid := by
  have found := find?_eq_occurrences uid t
  have chain : t.fluxParents uid = if uid = "" then [] else
      ((t.occurrences.find? (·.uid = uid)).elim [] Occurrence.above).filter
        (·.metadata.flux?.isSome) := by
    rw [fluxParents, searchPath_eq, ← occurrences]
    cases t.occurrences.find? (·.uid = uid) with
    | some o => rfl
    | none => rfl
  refine ⟨fun o => leads_of_mem_occurrences, found, chain, ?_, ?_⟩
  · rintro (rfl | absent)
    · rw [chain, if_pos rfl]
    · rw [(find?_eq_none_iff uid t).2 absent] at found
      rw [chain, Option.map_eq_none_iff.1 found.symm]
      split <;> rfl
  · intro r member
    rw [chain] at member
    split at member
    · cases member
    · cases first : t.occurrences.find? (·.uid = uid) with
      | none =>
        rw [first] at member
        cases member
      | some o =>
        rw [first] at member
        have above : r ∈ o.above := (List.mem_filter.1 member).1
        exact (uid_ne_of_above first r above).resolve_left List.not_mem_nil

/-- Below `web`, one pod stands below the other and has the same uid. The search has gone through `db` and
left it before it finds them. -/
theorem fluxParents_eq_same_uid :
    let managed (uid : String) : List Tree → Tree :=
      .node { Store.placed uid none with metadata := .helmChart {} }
    let plain (uid : String) : List Tree → Tree := .node (Store.placed uid none)
    let t := managed "root" [plain "apps" [managed "db" [plain "disk" []],
      managed "web" [managed "pod" [managed "pod" []]]]]
    (t.fluxParents "pod").map Resource.uid = ["root", "web"] ∧
      (∀ r ∈ t.fluxParents "pod", r.uid ≠ "pod") ∧
      (∃ o ∈ t.occurrences, o.uid = "pod" ∧ t.Leads o.above o.tree) ∧
      ("queue" = "" ∨ "queue" ∉ t.uids) ∧ t.fluxParents "queue" = [] := by
  intro managed plain t
  obtain ⟨leads, -, chain, -, others⟩ := fluxParents_eq "pod" t
  have absent : "queue" = "" ∨ "queue" ∉ t.uids := by decide
  obtain ⟨-, -, -, empty, -⟩ := fluxParents_eq "queue" t
  obtain ⟨o, inside, own⟩ : ∃ o ∈ t.occurrences, o.uid = "pod" := by decide
  refine ⟨?_, others, ⟨o, inside, own, leads o inside⟩, absent, empty absent⟩
  rw [chain]
  decide

end ResourceTree.Tree
