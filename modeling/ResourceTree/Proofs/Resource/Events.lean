import ResourceTree.Resource.Event

/-!
# Taking up further events

A resource keeps its events and adds those of unseen uids, and past the cap it keeps the ones that
were observed last. What is cut off is forgotten, its uid included. So the same events may bring
something new when they come a second time: `merge_merge_iff` says that they do exactly if one of
them has a uid of which an older event has been cut off, and is later than one that was kept.
-/

namespace ResourceTree.Event
set_option autoImplicit false

/-! ## The events of unseen uids -/

/-- The events whose uid is none of the given ones, the first of each uid. -/
def unseen (uids : List String) : List Event → List Event
  | [] => []
  | e :: rest =>
    if e.uid ∈ uids then unseen uids rest else e :: unseen (uids ++ [e.uid]) rest

/-- The unseen events come behind the known ones. -/
theorem appendUnseen_eq (events incoming : List Event) :
    appendUnseen events incoming = events ++ unseen (events.map (·.uid)) incoming := by
  induction incoming generalizing events with
  | nil => simp [appendUnseen, unseen]
  | cons e rest ih =>
    have known : events.any (·.uid = e.uid) = true ↔ e.uid ∈ events.map (·.uid) := by simp
    by_cases seen : e.uid ∈ events.map (·.uid)
    · rw [appendUnseen, if_pos (known.2 seen), unseen, if_pos seen, ih]
    · rw [appendUnseen, if_neg (seen ∘ known.1), unseen, if_neg seen, ih]
      simp

/-- An event is new if its uid is unknown and no earlier one of the delivery has it. -/
theorem mem_unseen {uids : List String} {incoming : List Event} {e : Event} :
    e ∈ unseen uids incoming ↔
      e.uid ∉ uids ∧ incoming.find? (·.uid = e.uid) = some e := by
  induction incoming generalizing uids with
  | nil => simp [unseen]
  | cons first rest ih =>
    by_cases own : first.uid = e.uid
    · -- an event of this uid comes first, so that no later one is taken
      have later : e ∉ unseen (uids ++ [e.uid]) rest := by simp [ih]
      by_cases seen : e.uid ∈ uids
      · simp [unseen, own, seen, ih]
      · simp [unseen, own, seen, later, eq_comm]
    · have other : e ≠ first := fun same => own (same ▸ rfl)
      by_cases seen : first.uid ∈ uids
      · simp [unseen, seen, ih, own]
      · simp [unseen, seen, ih, own, other, Ne.symm own]

/-- A delivery of known uids brings nothing new. -/
theorem unseen_eq_nil {uids : List String} {incoming : List Event}
    (known : ∀ e ∈ incoming, e.uid ∈ uids) : unseen uids incoming = [] := by
  refine List.eq_nil_iff_forall_not_mem.2 fun e member => ?_
  obtain ⟨fresh, found⟩ := mem_unseen.1 member
  exact fresh (known e (List.mem_of_find?_eq_some found))

/-- An event of every uid is there once the unseen ones have been added. -/
theorem uid_mem_appendUnseen (events : List Event) {incoming : List Event} {e : Event}
    (member : e ∈ incoming) : e.uid ∈ (appendUnseen events incoming).map (·.uid) := by
  rw [appendUnseen_eq, List.map_append, List.mem_append]
  by_cases seen : e.uid ∈ events.map (·.uid)
  · exact .inl seen
  · obtain ⟨first, found⟩ : ∃ first, incoming.find? (·.uid = e.uid) = some first := by
      rw [← Option.isSome_iff_exists, List.find?_isSome]
      exact ⟨e, member, by simp⟩
    have own : first.uid = e.uid := by simpa using List.find?_some found
    refine .inr (List.mem_map.2 ⟨first, mem_unseen.2 ⟨own ▸ seen, ?_⟩, own⟩)
    rw [own, found]

/-! ## The latest events -/

/-- One event was observed at another's time or later. -/
def NotBefore (a b : Event) : Prop := b.lastObserved.rank ≤ a.lastObserved.rank

instance (a b : Event) : Decidable (NotBefore a b) := Int.decLe _ _

theorem NotBefore.trans {a b c : Event} (ab : NotBefore a b) (bc : NotBefore b c) : NotBefore a c :=
  Int.le_trans bc ab

theorem notBefore_total (a b : Event) : NotBefore a b ∨ NotBefore b a :=
  Int.le_total b.lastObserved.rank a.lastObserved.rank

/-- The order of events is a merge sort. -/
theorem newestFirst_eq (events : List Event) :
    newestFirst events = events.mergeSort fun a b => NotBefore a b :=
  rfl

section Sorting

variable (a b c : Event)

theorem decide_notBefore_trans : decide (NotBefore a b) = true → decide (NotBefore b c) = true →
    decide (NotBefore a c) = true := by
  simp only [decide_eq_true_eq]
  exact NotBefore.trans

theorem decide_notBefore_total : (decide (NotBefore a b) || decide (NotBefore b a)) = true := by
  simpa using notBefore_total a b

end Sorting

/-- The order of events loses none. -/
theorem newestFirst_perm (events : List Event) : (newestFirst events).Perm events :=
  List.mergeSort_perm events _

/-- The latest events come first. -/
theorem newestFirst_ordered (events : List Event) : (newestFirst events).Pairwise NotBefore := by
  simpa [newestFirst_eq] using
    List.pairwise_mergeSort decide_notBefore_trans decide_notBefore_total events

/-- Events in order stay in front of ones that are not later. -/
theorem newestFirst_append {kept late : List Event} (ordered : kept.Pairwise NotBefore)
    (apart : ∀ k ∈ kept, ∀ e ∈ late, NotBefore k e) :
    newestFirst (kept ++ late) = kept ++ newestFirst late := by
  induction kept with
  | nil => rfl
  | cons k kept ih =>
    obtain ⟨first, rest⟩ := List.pairwise_cons.1 ordered
    obtain ⟨front, back, sorted, others, before⟩ := List.mergeSort_cons decide_notBefore_trans
      decide_notBefore_total k (kept ++ late)
    have least : ∀ e ∈ kept ++ late, NotBefore k e := by
      intro e member
      rcases List.mem_append.1 member with old | new
      · exact first e old
      · exact apart k List.mem_cons_self e new
    have none : front = [] := by
      refine List.eq_nil_iff_forall_not_mem.2 fun e member => ?_
      have there : e ∈ kept ++ late := by
        rw [← (newestFirst_perm (kept ++ late)).mem_iff, newestFirst_eq, others]
        exact List.mem_append_left _ member
      simpa [least e there] using before e member
    rw [none, List.nil_append] at sorted others
    rw [List.cons_append, newestFirst_eq, sorted, ← others, ← newestFirst_eq,
      ih rest fun k' member => apart k' (List.mem_cons_of_mem k member), List.cons_append]

/-! ## What is kept -/

section Merge

variable {events incoming kept : List Event}

/-- As long as there is room every event is kept, in order of arrival. -/
theorem merge_of_le (few : (appendUnseen events incoming).length ≤ cap) :
    merge events incoming = appendUnseen events incoming := by
  rw [merge, if_pos few]

/-- Where there is no room the latest events are kept. -/
theorem merge_of_lt (many : cap < (appendUnseen events incoming).length) :
    merge events incoming = (newestFirst (appendUnseen events incoming)).take cap := by
  rw [merge, if_neg (Nat.not_le.2 many)]

/-- As many events as a resource keeps, in order, and the others, none of which is later. -/
structure Cut (all kept dropped : List Event) : Prop where
  perm : (kept ++ dropped).Perm all
  full : kept.length = cap
  ordered : kept.Pairwise NotBefore
  apart : ∀ k ∈ kept, ∀ e ∈ dropped, NotBefore k e

/-- Of too many events those are kept that no dropped one is later than. -/
theorem cut_newestFirst {all : List Event} (many : cap < all.length) :
    Cut all ((newestFirst all).take cap) ((newestFirst all).drop cap) := by
  have sorted := newestFirst_ordered all
  have perm := newestFirst_perm all
  rw [← List.take_append_drop cap (newestFirst all)] at sorted perm
  obtain ⟨ordered, -, apart⟩ := List.pairwise_append.1 sorted
  refine ⟨perm, ?_, ordered, apart⟩
  rw [List.length_take, (newestFirst_perm all).length_eq]
  exact Nat.min_eq_left (Nat.le_of_lt many)

/-- A full list in order stays as it is if and only if nothing that is unseen is later. -/
theorem merge_eq_self_iff (full : kept.length = cap) (ordered : kept.Pairwise NotBefore) :
    merge kept incoming = kept ↔
      ∀ e ∈ unseen (kept.map (·.uid)) incoming, ∀ k ∈ kept, NotBefore k e := by
  have all := appendUnseen_eq kept incoming
  generalize unseen (kept.map (·.uid)) incoming = late at all
  have length : (appendUnseen kept incoming).length = cap + late.length := by
    rw [all, List.length_append, full]
  by_cases none : late = []
  · subst none
    rw [merge_of_le (Nat.le_of_eq length), all]
    simp
  · have many : cap < (appendUnseen kept incoming).length := by
      have some := List.length_pos_iff.2 none
      omega
    rw [merge_of_lt many]
    constructor
    · intro same e member k old
      have cut := cut_newestFirst many
      rw [same, all] at cut
      have dropped := (List.perm_append_left_iff kept).1 cut.perm
      exact cut.apart k old e (dropped.mem_iff.2 member)
    · intro older
      rw [all, newestFirst_append ordered fun k old e member => older e member k old,
        List.take_left' full]

/-- Of one event too many the one that all others are later than makes room. -/
theorem merge_perm_erase {old : Event} (one : (appendUnseen events incoming).length = cap + 1)
    (member : old ∈ appendUnseen events incoming)
    (oldest : ∀ e ∈ appendUnseen events incoming, e ≠ old → ¬ NotBefore old e) :
    (merge events incoming).Perm ((appendUnseen events incoming).erase old) := by
  have many : cap < (appendUnseen events incoming).length := by omega
  have cut := cut_newestFirst many
  rw [← merge_of_lt many] at cut
  obtain ⟨d, dropped⟩ : ∃ d, (newestFirst (appendUnseen events incoming)).drop cap = [d] := by
    rw [← List.length_eq_one_iff, List.length_drop, (newestFirst_perm _).length_eq, one]
    omega
  rw [dropped] at cut
  have same : d = old := by
    rcases List.mem_append.1 (cut.perm.mem_iff.2 member) with kept | last
    · have there : d ∈ appendUnseen events incoming := cut.perm.subset (by simp)
      exact Decidable.byContradiction fun other =>
        oldest d there other (cut.apart old kept d List.mem_cons_self)
    · exact (List.mem_singleton.1 last).symm
  rw [same] at cut
  have moved : (old :: merge events incoming).Perm (appendUnseen events incoming) :=
    List.perm_append_comm.trans cut.perm
  exact (List.perm_cons old).1 (moved.trans (List.perm_cons_erase member))

/-- An event that comes while a uid is forgotten: one of that uid was there and has been cut off, and
the one that comes is later than one that is kept. -/
def Resurfaces (events incoming : List Event) : Prop :=
  ∃ e, incoming.find? (·.uid = e.uid) = some e ∧
    e.uid ∈ events.map (·.uid) ∧ e.uid ∉ (merge events incoming).map (·.uid) ∧
    ∃ k ∈ merge events incoming, k.lastObserved.rank < e.lastObserved.rank

/-- The event that makes room resurfaces if it comes with the others, later than one of them. -/
theorem resurfaces_of_oldest (old e : Event) (one : (appendUnseen events incoming).length = cap + 1)
    (known : old ∈ events) (oldest : ∀ k ∈ appendUnseen events incoming, k ≠ old → ¬ NotBefore old k)
    (comes : incoming.find? (·.uid = e.uid) = some e) (same : old.uid = e.uid)
    (forgotten : e.uid ∉ ((appendUnseen events incoming).erase old).map (·.uid))
    (later : ∃ k ∈ (appendUnseen events incoming).erase old,
      k.lastObserved.rank < e.lastObserved.rank) :
    Resurfaces events incoming := by
  have member : old ∈ appendUnseen events incoming := by
    rw [appendUnseen_eq]
    exact List.mem_append_left _ known
  have perm := merge_perm_erase one member oldest
  obtain ⟨k, kept, after⟩ := later
  refine ⟨e, comes, same ▸ List.mem_map_of_mem known, ?_, k, perm.mem_iff.2 kept, after⟩
  rwa [(perm.map (·.uid)).mem_iff]

/-- Events that come a second time bring nothing new, unless one of them resurfaces. -/
theorem merge_merge_iff (events incoming : List Event) :
    merge (merge events incoming) incoming = merge events incoming ↔
      ¬ Resurfaces events incoming := by
  by_cases few : (appendUnseen events incoming).length ≤ cap
  · have known : unseen ((appendUnseen events incoming).map (·.uid)) incoming = [] :=
      unseen_eq_nil fun e member => uid_mem_appendUnseen events member
    have again : appendUnseen (appendUnseen events incoming) incoming =
        appendUnseen events incoming := by
      rw [appendUnseen_eq (appendUnseen events incoming), known, List.append_nil]
    rw [merge_of_le few, merge_of_le (again.symm ▸ few), again]
    refine iff_of_true rfl ?_
    rintro ⟨e, -, old, gone, -⟩
    rw [merge_of_le few, appendUnseen_eq, List.map_append] at gone
    exact gone (List.mem_append_left _ old)
  · have many := Nat.not_le.1 few
    have cut := cut_newestFirst many
    rw [← merge_of_lt many] at cut
    rw [merge_eq_self_iff cut.full cut.ordered, Resurfaces]
    constructor
    · rintro quiet ⟨e, found, -, gone, k, kept, later⟩
      exact absurd later (Int.not_lt.2 (quiet e (mem_unseen.2 ⟨gone, found⟩) k kept))
    · intro quiet e member k kept
      obtain ⟨gone, found⟩ := mem_unseen.1 member
      by_cases old : e.uid ∈ events.map (·.uid)
      · exact Int.not_lt.1 fun later => quiet ⟨e, found, old, gone, k, kept, later⟩
      · -- an event of a new uid was among those that the cut has chosen from
        have new : e ∈ appendUnseen events incoming := by
          rw [appendUnseen_eq]
          exact List.mem_append_right _ (mem_unseen.2 ⟨old, found⟩)
        rcases List.mem_append.1 (cut.perm.mem_iff.2 new) with here | dropped
        · exact absurd (List.mem_map_of_mem here) gone
        · exact cut.apart k kept e dropped

end Merge

end ResourceTree.Event
