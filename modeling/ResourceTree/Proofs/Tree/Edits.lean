import ResourceTree.Proofs.Tree.Canonical

/-!
# Edits of siblings

What a delta does among the children of its parent: a child takes on what a resource says, a tree
becomes the last child, or a child goes with all that stands below it. An edit spares the uids that
it has nothing to do with, and two edits about different children give the same siblings in either
order, up to their order.
-/

namespace ResourceTree
set_option autoImplicit false

open Store (onChildren mergeChild)
open ResourceTree.Tree (Spares findList? modifyList)

/-- What can happen among the children of a node. -/
inductive Edit where
  /-- The child of the resource's uid takes on what the resource says. -/
  | merge (incoming : Resource)
  | attach (t : Tree)
  | detach (uid : String)

namespace Edit

/-- The uid of the child that an edit is about. -/
def uid : Edit → String
  | merge incoming => incoming.uid
  | attach t => t.uid
  | detach uid => uid

def run : Edit → List Tree → List Tree
  | merge incoming, ts => mergeChild incoming ts
  | attach t, ts => ts ++ [t]
  | detach uid, ts => ts.eraseP (·.uid = uid)

/-- Nothing of a uid changes, comes or goes. -/
def Avoids (q : String) (ts : List Tree) : Edit → Prop
  | merge incoming => q ≠ incoming.uid
  | attach t => q ∉ t.uids
  | detach uid => ∀ t ∈ ts, t.uid = uid → q ∉ t.uids

/-! ## What is spared -/

section Spared

variable {q : String}

/-- A change that passes over the first of some siblings spares what it spares among the others. -/
theorem spares_cons {f : List Tree → List Tree} {t : Tree} {ts : List Tree} (rest : Spares q f ts)
    (passes : ∀ t', t'.uid = t.uid → ∀ us, f (t' :: us) = t' :: f us) : Spares q f (t :: ts) := by
  have here := passes t rfl
  constructor
  · rw [here, findList?, findList?, rest.found]
  · rw [here, List.any_cons, List.any_cons, rest.child]
  · intro g
    rw [here, modifyList, modifyList]
    split
    · apply passes
      exact Tree.uid_modify_onChildren q g t
    · rw [here, rest.comm g]

/-- A merge spares every uid but its own. -/
theorem mergeChild_spares {incoming : Resource} (other : q ≠ incoming.uid) (ts : List Tree) :
    Spares q (mergeChild incoming) ts := by
  induction ts with
  | nil => exact ⟨rfl, rfl, fun _ => rfl⟩
  | cons t ts ih =>
    cases t with
    | node r cs =>
      by_cases here : r.uid = incoming.uid
      · have apart : r.uid ≠ q := fun same => other (same.symm.trans here)
        have merged : (r.merge incoming).uid = r.uid := rfl
        have run : ∀ cs' us, mergeChild incoming (.node r cs' :: us) =
            .node (r.merge incoming) cs' :: us := by
          intro cs' us
          rw [mergeChild, if_pos here]
        constructor
        · rw [run, findList?, findList?, Tree.find?, Tree.find?, merged, if_neg apart, if_neg apart]
        · rw [run, List.any_cons, List.any_cons]
          rfl
        · intro g
          rw [run, modifyList, modifyList, Tree.find?, Tree.find?, merged, if_neg apart, Tree.modify,
            Tree.modify, merged, if_neg apart, if_neg apart]
          split
          · rw [run]
          · rw [run]
      · apply spares_cons ih
        intro t' same us
        cases t' with
        | node r' cs' =>
          have another : r'.uid ≠ incoming.uid := fun eq => here (same.symm.trans eq)
          rw [mergeChild, if_neg another]

/-- Attaching a tree spares every uid that is not in it. -/
theorem attach_spares {t : Tree} (apart : q ∉ t.uids) (ts : List Tree) :
    Spares q (· ++ [t]) ts := by
  induction ts with
  | nil =>
    have absent : t.find? q = none := (Tree.find?_eq_none_iff q t).2 apart
    have other : t.uid ≠ q := fun same => apart (same ▸ Tree.uid_mem_uids t)
    constructor
    · exact Tree.findList?_cons_of_none absent
    · simp [other]
    · intro g
      rw [List.nil_append, Tree.modifyList_cons_of_none absent]
      rfl
  | cons u us ih => exact spares_cons ih fun _ _ _ => rfl

/-- Detaching a child spares every uid that is not below it. -/
theorem detach_spares {uid : String} {ts : List Tree}
    (apart : ∀ t, ts.find? (·.uid = uid) = some t → q ∉ t.uids) :
    Spares q (·.eraseP (·.uid = uid)) ts := by
  induction ts with
  | nil => exact ⟨rfl, rfl, fun _ => rfl⟩
  | cons t ts ih =>
    by_cases here : t.uid = uid
    · have outside : q ∉ t.uids := apart t (List.find?_cons_of_pos (decide_eq_true here))
      have absent : t.find? q = none := (Tree.find?_eq_none_iff q t).2 outside
      have other : t.uid ≠ q := fun same => outside (same ▸ Tree.uid_mem_uids t)
      have run : ∀ us : List Tree, (t :: us).eraseP (·.uid = uid) = us :=
        fun us => List.eraseP_cons_of_pos (decide_eq_true here)
      constructor
      · rw [run, Tree.findList?_cons_of_none absent]
      · rw [run, List.any_cons, decide_eq_false other, Bool.false_or]
      · intro g
        rw [run, Tree.modifyList_cons_of_none absent, run]
    · have passed : (t :: ts).find? (·.uid = uid) = ts.find? (·.uid = uid) :=
        List.find?_cons_of_neg (by simpa using here)
      rw [passed] at apart
      apply spares_cons (ih apart)
      intro t' same us
      apply List.eraseP_cons_of_neg
      rw [decide_eq_true_eq, same]
      exact here

/-- An edit spares the uids it has nothing to do with. -/
theorem spares {e : Edit} {ts : List Tree} (avoids : e.Avoids q ts) : Spares q e.run ts := by
  cases e with
  | merge incoming => exact mergeChild_spares avoids ts
  | attach t => exact attach_spares avoids ts
  | detach uid =>
    refine detach_spares fun t found => avoids t (List.mem_of_find?_eq_some found) ?_
    simpa using List.find?_some found

end Spared

/-! ## Two edits of the same siblings -/

section Two

variable {a b : Resource} {t u : Tree} {uid : String}

/-- Merges into different children may change places. -/
theorem merge_merge (other : a.uid ≠ b.uid) (ts : List Tree) :
    mergeChild b (mergeChild a ts) = mergeChild a (mergeChild b ts) := by
  induction ts with
  | nil => rfl
  | cons t ts ih =>
    cases t with
    | node r cs =>
      have mergedA : (r.merge a).uid = r.uid := rfl
      have mergedB : (r.merge b).uid = r.uid := rfl
      by_cases isA : r.uid = a.uid
      · have notB : r.uid ≠ b.uid := fun isB => other (isA.symm.trans isB)
        simp only [mergeChild, mergedA, if_pos isA, if_neg notB]
      · by_cases isB : r.uid = b.uid
        · simp only [mergeChild, mergedB, if_neg isA, if_pos isB]
        · simp only [mergeChild, if_neg isA, if_neg isB, ih]

/-- A merge and an attached tree of another uid may change places. -/
theorem merge_attach (other : a.uid ≠ t.uid) (ts : List Tree) :
    mergeChild a (ts ++ [t]) = mergeChild a ts ++ [t] := by
  induction ts with
  | nil =>
    cases t with
    | node r cs =>
      have apart : r.uid ≠ a.uid := other.symm
      simp only [List.nil_append, mergeChild, if_neg apart]
  | cons u ts ih =>
    cases u with
    | node r cs =>
      simp only [List.cons_append, mergeChild, ih]
      split <;> rfl

/-- A merge and a detached child of another uid may change places. -/
theorem merge_detach (other : a.uid ≠ uid) (ts : List Tree) :
    mergeChild a (ts.eraseP (·.uid = uid)) = (mergeChild a ts).eraseP (·.uid = uid) := by
  induction ts with
  | nil => rfl
  | cons t ts ih =>
    cases t with
    | node r cs =>
      have own : (Tree.node r cs).uid = r.uid := rfl
      have merged : (Tree.node (r.merge a) cs).uid = r.uid := rfl
      by_cases gone : r.uid = uid
      · have kept : r.uid ≠ a.uid := fun same => other (same.symm.trans gone)
        rw [mergeChild, if_neg kept]
        simp only [List.eraseP_cons, own, gone, decide_true, cond_true]
      · by_cases isA : r.uid = a.uid
        · simp only [mergeChild, if_pos isA, List.eraseP_cons, own, merged, gone, decide_false,
            cond_false]
        · simp only [mergeChild, if_neg isA, List.eraseP_cons, own, gone, decide_false, cond_false,
            ih]

/-- An attached tree and a detached child of another uid may change places. -/
theorem attach_detach (other : t.uid ≠ uid) (ts : List Tree) :
    (ts ++ [t]).eraseP (·.uid = uid) = ts.eraseP (·.uid = uid) ++ [t] := by
  rw [List.eraseP_append]
  split
  · rfl
  · next absent =>
    have none : ∀ u ∈ ts, ¬ decide (u.uid = uid) = true := by
      intro u member found
      exact absent (List.any_eq_true.2 ⟨u, member, found⟩)
    rw [List.eraseP_of_forall_not none, List.eraseP_cons_of_neg (by simpa using other),
      List.eraseP_nil]

/-- Two detached children may change places. -/
theorem detach_detach {uid' : String} (other : uid ≠ uid') (ts : List Tree) :
    (ts.eraseP (·.uid = uid)).eraseP (·.uid = uid') =
      (ts.eraseP (·.uid = uid')).eraseP (·.uid = uid) := by
  apply List.eraseP_comm
  intro u _
  by_cases first : u.uid = uid
  · exact .inr (by simpa [first] using other)
  · exact .inl (by simpa using first)

/-- Two trees that are attached stand in the order of the edits, but they are the same siblings. -/
theorem attach_attach {ts : List Tree} (distinct : (ts.map Tree.uid).Nodup) (other : t.uid ≠ u.uid)
    (newT : t.uid ∉ ts.map Tree.uid) (newU : u.uid ∉ ts.map Tree.uid) :
    Tree.arranged (ts ++ [t] ++ [u]) = Tree.arranged (ts ++ [u] ++ [t]) := by
  have swapped : (ts ++ [t] ++ [u]).Perm (ts ++ [u] ++ [t]) := by
    rw [List.append_assoc, List.append_assoc]
    exact List.Perm.append_left ts (List.Perm.swap u t [])
  have once : ((ts ++ [t] ++ [u]).map Tree.uid).Nodup := by
    rw [List.append_assoc, List.map_append, List.nodup_append]
    refine ⟨distinct, by simpa using other, ?_⟩
    intro uid old uid' new same
    subst same
    simp only [List.singleton_append, List.map_cons, List.map_nil, List.mem_cons,
      List.not_mem_nil, or_false] at new
    rcases new with rfl | rfl
    · exact newT old
    · exact newU old
  exact Tree.arranged_perm once swapped

end Two

/-- An edit that attaches a tree attaches no second child of its uid. -/
def Fresh (ts : List Tree) : Edit → Prop
  | attach t => t.uid ∉ ts.map Tree.uid
  | merge _ | detach _ => True

/-- Edits about different children come to the same siblings in either order. -/
theorem run_comm {d e : Edit} {ts : List Tree} (distinct : (ts.map Tree.uid).Nodup)
    (other : d.uid ≠ e.uid) (freshD : d.Fresh ts) (freshE : e.Fresh ts) :
    Tree.arranged (e.run (d.run ts)) = Tree.arranged (d.run (e.run ts)) := by
  cases d with
  | merge a =>
    cases e with
    | merge b => exact congrArg Tree.arranged (merge_merge other ts)
    | attach u => exact congrArg Tree.arranged (merge_attach other ts).symm
    | detach uid => exact congrArg Tree.arranged (merge_detach other ts).symm
  | attach t =>
    cases e with
    | merge b => exact congrArg Tree.arranged (merge_attach other.symm ts)
    | attach u => exact attach_attach distinct other freshD freshE
    | detach uid => exact congrArg Tree.arranged (attach_detach other ts)
  | detach uid =>
    cases e with
    | merge b => exact congrArg Tree.arranged (merge_detach other.symm ts)
    | attach u => exact congrArg Tree.arranged (attach_detach other.symm ts).symm
    | detach uid' => exact congrArg Tree.arranged (detach_detach other ts)

end Edit

end ResourceTree
