import Mathlib.Data.List.Nodup
import Mathlib.Data.List.Perm.Basic
import ResourceTree.Proofs.Tree.Preorder

/-!
# The report of repeated uids

One pass over the uids in pre-order keeps what it has seen and what it has reported. What it reports are the
places at which a uid stands for the second time, so that the report is in the order in which uids are first
repeated. `duplicateUids_eq_sights` says this, and when it is also the order in which they are first seen.
-/

namespace ResourceTree.Tree
set_option autoImplicit false

/-- The members of a list that have just `count` equal ones before them; `before` is what stands in front
of the list. -/
def sightsAfter (count : Nat) (before : List String) : List String → List String
  | [] => []
  | uid :: rest =>
    if before.count uid = count then uid :: sightsAfter count (before ++ [uid]) rest
    else sightsAfter count (before ++ [uid]) rest

/-- The members of a list that have just `count` equal ones before them, in their order. -/
def sights (count : Nat) (uids : List String) : List String := sightsAfter count [] uids

variable {count : Nat} {before : List String} {uid : String}

theorem mem_sightsAfter (before uids : List String) :
    uid ∈ sightsAfter count before uids ↔
      before.count uid ≤ count ∧ count < before.count uid + uids.count uid := by
  induction uids generalizing before with
  | nil =>
    simp only [sightsAfter, List.not_mem_nil, List.count_nil, false_iff, not_and]
    omega
  | cons u uids ih =>
    have further := ih (before ++ [u])
    rw [List.count_append, List.count_singleton] at further
    rw [sightsAfter, List.count_cons]
    by_cases same : u = uid
    · subst same
      simp only [BEq.rfl, if_true] at further ⊢
      split
      · simp only [List.mem_cons, true_or, true_iff]; omega
      · rw [further]; omega
    · simp only [beq_iff_eq, same, if_false, Nat.add_zero] at further ⊢
      split
      · rw [List.mem_cons, or_iff_right (Ne.symm same), further]
      · exact further

theorem nodup_sightsAfter (before uids : List String) : (sightsAfter count before uids).Nodup := by
  induction uids generalizing before with
  | nil => exact List.nodup_nil
  | cons u uids ih =>
    rw [sightsAfter]
    split
    · next here =>
      refine List.nodup_cons.2 ⟨fun again => ?_, ih _⟩
      -- Behind its own place a uid has one more equal member before it.
      have least := ((mem_sightsAfter _ _).1 again).1
      rw [List.count_append, List.count_singleton_self] at least
      omega
    · exact ih _

/-- The first sights are the members without those that repeat an earlier one. -/
theorem sightsAfter_zero (before uids : List String) :
    sightsAfter 0 before uids = (uids.filter (· ∉ before)).eraseDups := by
  induction uids generalizing before with
  | nil => rfl
  | cons u uids ih =>
    rw [sightsAfter, ih (before ++ [u]), List.filter_cons]
    by_cases known : u ∈ before
    · have counted : before.count u ≠ 0 := by
        have := List.count_pos_iff.2 known
        omega
      rw [if_neg counted, if_neg (by simpa using known)]
      congr 1
      refine List.filter_congr fun v _ => ?_
      simp only [List.mem_append, List.mem_singleton, not_or, decide_eq_decide, and_iff_left_iff_imp]
      rintro fresh rfl
      exact fresh known
    · rw [if_pos (List.count_eq_zero.2 known), if_pos (by simpa using known), List.eraseDups_cons,
        List.filter_filter]
      congr 2
      refine List.filter_congr fun v _ => ?_
      rw [Bool.eq_iff_iff]
      simp [and_comm]

theorem sights_zero (uids : List String) : sights 0 uids = uids.eraseDups := by
  simp [sights, sightsAfter_zero]

/-- The pass reports, behind what it has reported, the second sights that are still to come. -/
theorem repeated_eq_sightsAfter (seen found before uids : List String)
    (known : ∀ uid, uid ∈ seen ↔ uid ∈ before)
    (reported : ∀ uid, uid ∈ found ↔ 2 ≤ before.count uid) :
    repeated seen found uids = found ++ sightsAfter 1 before uids := by
  induction uids generalizing seen found before with
  | nil => rw [repeated, sightsAfter, List.append_nil]
  | cons u uids ih =>
    have counted (v : String) :
        (before ++ [u]).count v = before.count v + if u = v then 1 else 0 := by
      rw [List.count_append, List.count_singleton]
      simp only [beq_iff_eq]
    have met := known u
    rw [← List.count_pos_iff (l := before)] at met
    rw [repeated, sightsAfter]
    simp only [List.contains_iff_mem]
    by_cases old : u ∈ seen
    · have knownNext (v : String) : v ∈ seen ↔ v ∈ before ++ [u] := by
        rw [known v, List.mem_append, List.mem_singleton]
        exact ⟨.inl, fun h => h.elim id fun same => same ▸ (known u).1 old⟩
      rw [if_pos old]
      by_cases told : u ∈ found
      · have twice := (reported u).1 told
        rw [if_pos told, if_neg (by omega)]
        refine ih seen found (before ++ [u]) knownNext fun v => ?_
        rw [reported v, counted v]
        by_cases same : u = v
        · subst same
          rw [if_pos rfl]; omega
        · rw [if_neg same]; omega
      · have once : before.count u = 1 := by
          have := met.1 old
          have := mt (reported u).2 told
          omega
        rw [if_neg told, if_pos once]
        rw [ih seen (found ++ [u]) (before ++ [u]) knownNext, List.append_assoc, List.singleton_append]
        intro v
        rw [List.mem_append, List.mem_singleton, reported v, counted v]
        by_cases same : u = v
        · subst same
          simp only [if_true, or_true, true_iff]; omega
        · simp only [same, Ne.symm same, if_false, or_false, Nat.add_zero]
    · have never : before.count u = 0 := by
        have := mt met.2 old
        omega
      rw [if_neg old, if_neg (by omega)]
      refine ih (u :: seen) found (before ++ [u]) (fun v => ?_) fun v => ?_
      · rw [List.mem_cons, known v, List.mem_append, List.mem_singleton, or_comm]
      · rw [reported v, counted v]
        by_cases same : u = v
        · subst same
          rw [if_pos rfl]; omega
        · rw [if_neg same]; omega

/-- Of two members, one comes first. -/
theorem pair_sublist {x y : String} {l : List String} (apart : x ≠ y) (first : x ∈ l) (second : y ∈ l) :
    [x, y].Sublist l ∨ [y, x].Sublist l := by
  induction l with
  | nil => cases first
  | cons u l ih =>
    rcases List.mem_cons.1 first with rfl | inside
    · have later := (List.mem_cons.1 second).resolve_left (Ne.symm apart)
      exact .inl ((List.singleton_sublist.2 later).cons_cons x)
    · rcases List.mem_cons.1 second with rfl | alsoInside
      · exact .inr ((List.singleton_sublist.2 inside).cons_cons y)
      · exact (ih inside alsoInside).imp (·.cons u) (·.cons u)

/-- Of two distinct members, only one comes first. -/
theorem not_sublist_swap {x y : String} {l : List String} (once : l.Nodup) (here : [x, y].Sublist l) :
    ¬ [y, x].Sublist l := by
  induction l with
  | nil => cases here
  | cons u l ih =>
    obtain ⟨new, rest⟩ := List.nodup_cons.1 once
    intro back
    rcases List.cons_sublist_cons'.1 here with inside | ⟨rfl, later⟩
    · rcases List.cons_sublist_cons'.1 back with alsoInside | ⟨rfl, -⟩
      · exact ih rest inside alsoInside
      · exact new (inside.subset (by simp))
    · rcases List.cons_sublist_cons'.1 back with inside | ⟨rfl, -⟩
      · exact new (inside.subset (by simp))
      · exact new (List.singleton_sublist.1 later)

/-- Two lists of the same distinct members are equal unless two of them change places. -/
theorem eq_iff_no_swap {l m : List String} (once : l.Nodup) (perm : l.Perm m) :
    m = l ↔ ∀ x y, [x, y].Sublist l → ¬ [y, x].Sublist m := by
  constructor
  · rintro rfl x y here
    exact not_sublist_swap once here
  · intro noSwap
    refine (@List.Perm.eq_of_pairwise _ (fun x y => [x, y].Sublist l) l m ?_ ?_ ?_ perm).symm
    · intro x y _ _ here back
      exact absurd back (not_sublist_swap once here)
    · exact List.pairwise_iff_forall_sublist.2 id
    · refine List.pairwise_iff_forall_sublist.2 fun {x y} here => ?_
      have apart : x ≠ y := by simpa using (perm.nodup_iff.1 once).sublist here
      have inside {u : String} (member : u ∈ [x, y]) : u ∈ l := perm.mem_iff.2 (here.subset member)
      exact (pair_sublist apart (inside (by simp)) (inside (by simp))).resolve_right fun back =>
        noSwap y x back here

theorem duplicateUids_eq (t : Tree) : t.duplicateUids = sights 1 t.uids := by
  rw [duplicateUids, repeated_eq_sightsAfter [] [] [] t.uids (fun _ => .rfl) (by simp), sights,
    List.nil_append]

theorem mem_duplicateUids (t : Tree) (uid : String) :
    uid ∈ t.duplicateUids ↔ 2 ≤ t.uids.count uid := by
  rw [duplicateUids_eq, sights, mem_sightsAfter, List.count_nil]
  omega

theorem nodup_duplicateUids (t : Tree) : t.duplicateUids.Nodup := by
  rw [duplicateUids_eq]
  exact nodup_sightsAfter [] t.uids

/-- The report of repeated uids lists those that occur twice or more often, each once, in the order in which
a walk in pre-order comes to them for the second time. This is the order in which it comes to them for the
first time unless there are two uids of which the later one is repeated before the earlier one. -/
theorem duplicateUids_eq_sights (t : Tree) :
    t.uids = t.sequence.map (·.1.uid) ∧
    t.duplicateUids = sights 1 t.uids ∧
    t.duplicateUids.Nodup ∧
    (∀ uid, uid ∈ t.duplicateUids ↔ 2 ≤ t.uids.count uid) ∧
    (t.duplicateUids = t.uids.eraseDups.filter (2 ≤ t.uids.count ·) ↔
      ∀ x y, [x, y].Sublist t.uids.eraseDups → ¬ [y, x].Sublist t.duplicateUids) := by
  refine ⟨uids_eq_sequence t, duplicateUids_eq t, nodup_duplicateUids t, mem_duplicateUids t, ?_⟩
  have once : t.uids.eraseDups.Nodup := by
    rw [← sights_zero]
    exact nodup_sightsAfter [] t.uids
  have perm : (t.uids.eraseDups.filter (2 ≤ t.uids.count ·)).Perm t.duplicateUids := by
    refine (List.perm_ext_iff_of_nodup (once.filter _) (nodup_duplicateUids t)).2 fun uid => ?_
    rw [List.mem_filter, List.mem_eraseDups, mem_duplicateUids, decide_eq_true_iff,
      and_iff_right_iff_imp]
    exact fun twice => List.count_pos_iff.1 (by omega)
  rw [eq_iff_no_swap (once.filter _) perm]
  refine forall_congr' fun x => forall_congr' fun y => ?_
  constructor
  · intro kept here back
    refine kept ?_ back
    -- Both uids are repeated, since the report has them.
    have inside := here.filter (2 ≤ t.uids.count ·)
    have repeated {u : String} (member : u ∈ [y, x]) : 2 ≤ t.uids.count u :=
      (mem_duplicateUids t u).1 (back.subset member)
    rwa [List.filter_eq_self.2 fun u member =>
      decide_eq_true (repeated (by simpa [or_comm] using member))] at inside
  · exact fun kept here => kept (here.trans List.filter_sublist)

/-- Two pairs of uids, one around the other. -/
def nested : Tree :=
  .node { Resource.placeholder with uid := "outer" }
    [.node { Resource.placeholder with uid := "inner" } [],
      .node { Resource.placeholder with uid := "inner" } [],
      .node { Resource.placeholder with uid := "outer" } []]

/-- The inner pair is complete first and is reported first, although the outer one is seen first. -/
theorem inner_pair_reported_first :
    ¬ ∀ t : Tree, t.duplicateUids = t.uids.eraseDups.filter (2 ≤ t.uids.count ·) := by
  intro same
  exact absurd (same nested) (by decide)

end ResourceTree.Tree
