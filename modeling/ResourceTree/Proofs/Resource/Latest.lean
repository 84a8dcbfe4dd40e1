import Mathlib.Data.List.Nodup
import ResourceTree.Proofs.Resource.Events

/-!
# The latest events

What a resource has to choose from when it takes up further events are its own and, behind them, the
first one of each new uid. Up to the cap it keeps all of them in this order. Past it the events are put
in order, the latest first and those of one time as they stood, and the first hundred stay.
-/

namespace ResourceTree.Event
set_option autoImplicit false

/-- Events, and behind them those of further ones that have none of their uids, the first of each uid. -/
def gathered (events incoming : List Event) : List Event :=
  events ++ (incoming.filter (·.uid ∉ events.map (·.uid))).eraseDupsBy (·.uid = ·.uid)

/-- An event comes before another one of a list in the order of recency: it is later, or it is of the
same time and stands before the other in the list. -/
def Precedes (all : List Event) (a b : Event) : Prop :=
  b.lastObserved.rank < a.lastObserved.rank ∨
    a.lastObserved.rank = b.lastObserved.rank ∧ [a, b].Sublist all

/-! ## What there is to choose from -/

/-- The unseen events are those of unknown uids, each uid once. -/
theorem unseen_eq_eraseDupsBy (uids : List String) (incoming : List Event) :
    unseen uids incoming = (incoming.filter (·.uid ∉ uids)).eraseDupsBy (·.uid = ·.uid) := by
  induction incoming generalizing uids with
  | nil => rfl
  | cons e rest ih =>
    by_cases seen : e.uid ∈ uids
    · rw [unseen, if_pos seen, ih, List.filter_cons_of_neg (by simpa using seen)]
    · rw [unseen, if_neg seen, ih, List.filter_cons_of_pos (by simpa using seen),
        List.eraseDupsBy_cons, List.filter_filter]
      congr 3
      funext a
      simp [and_comm]

/-- What there is to choose from are the known events and the unseen ones behind them. -/
theorem appendUnseen_eq_gathered (events incoming : List Event) :
    appendUnseen events incoming = gathered events incoming := by
  rw [appendUnseen_eq, unseen_eq_eraseDupsBy, gathered]

/-- No uid is unseen twice. -/
theorem nodup_unseen (uids : List String) (incoming : List Event) :
    ((unseen uids incoming).map (·.uid)).Nodup := by
  induction incoming generalizing uids with
  | nil => exact List.nodup_nil
  | cons e rest ih =>
    rw [unseen]
    split
    · exact ih uids
    · rw [List.map_cons, List.nodup_cons]
      refine ⟨fun again => ?_, ih _⟩
      obtain ⟨a, member, same⟩ := List.mem_map.1 again
      exact (mem_unseen.1 member).1 (by simp [same])

/-- Different known events stay different when unseen ones come to them. -/
theorem nodup_gathered {events : List Event} (distinct : (events.map (·.uid)).Nodup)
    (incoming : List Event) : ((gathered events incoming).map (·.uid)).Nodup := by
  rw [← appendUnseen_eq_gathered, appendUnseen_eq, List.map_append, List.nodup_append]
  refine ⟨distinct, nodup_unseen _ _, ?_⟩
  rintro uid known _ new rfl
  obtain ⟨a, member, same⟩ := List.mem_map.1 new
  exact (mem_unseen.1 member).1 (same ▸ known)

/-! ## The order of recency -/

/-- What comes before in the order of recency is not earlier in time. -/
theorem Precedes.notBefore {all : List Event} {a b : Event} (precedes : Precedes all a b) :
    NotBefore a b := by
  rcases precedes with later | ⟨same, -⟩
  · exact Int.le_of_lt later
  · exact Int.le_of_eq same.symm

theorem Precedes.cons {all : List Event} {a b : Event} (precedes : Precedes all a b) (e : Event) :
    Precedes (e :: all) a b :=
  precedes.imp_right fun ⟨same, order⟩ => ⟨same, order.cons e⟩

/-- Events in the order of recency. -/
theorem newestFirst_precedes (all : List Event) : (newestFirst all).Pairwise (Precedes all) := by
  induction all with
  | nil => simp [newestFirst]
  | cons e rest ih =>
    -- the first event goes behind those that are later, and all others stay in their order
    obtain ⟨later, others, sorted, without, before⟩ := List.mergeSort_cons decide_notBefore_trans
      decide_notBefore_total e rest
    rw [← newestFirst_eq] at sorted without
    have known : ∀ a ∈ later ++ others, a ∈ rest := fun a member =>
      (newestFirst_perm rest).subset (without ▸ member)
    have ordered := newestFirst_ordered (e :: rest)
    rw [without] at ih
    rw [sorted] at ordered ⊢
    obtain ⟨front, back, apart⟩ := List.pairwise_append.1 (ih.imp (·.cons e))
    rw [List.pairwise_append, List.pairwise_cons]
    refine ⟨front, ⟨fun b member => ?_, back⟩, fun a member b there => ?_⟩
    · have notBefore := List.rel_of_pairwise_cons (List.pairwise_append.1 ordered).2.1 member
      have order : [e, b].Sublist (e :: rest) :=
        (List.singleton_sublist.2 (known b (List.mem_append_right _ member))).cons_cons e
      exact (Int.lt_or_eq_of_le notBefore).imp id fun same => ⟨same.symm, order⟩
    · rcases List.mem_cons.1 there with rfl | there
      · have earlier : ¬ NotBefore b a := by simpa using before a member
        exact .inl (Int.not_le.1 earlier)
      · exact apart a member b there

/-! ## What is kept -/

/-- A resource with events of distinct uids keeps all that there is to choose from, if these are a
hundred at most. Otherwise it keeps a hundred of them, with distinct uids and in the order of recency,
and every one that is dropped comes behind all that are kept, so that it is not later than any. -/
theorem merge_keeps_latest {events : List Event} (distinct : (events.map (·.uid)).Nodup)
    (incoming : List Event) :
    let all := gathered events incoming
    let kept := merge events incoming
    (all.length ≤ 100 → kept = all) ∧
      (100 < all.length →
        kept.length = 100 ∧ (∀ e ∈ kept, e ∈ all) ∧ (kept.map (·.uid)).Nodup ∧
          kept.Pairwise (Precedes all) ∧
          ∀ e ∈ all, e ∉ kept → ∀ k ∈ kept,
            Precedes all k e ∧ e.lastObserved.rank ≤ k.lastObserved.rank) := by
  intro all kept
  have eq : appendUnseen events incoming = all := appendUnseen_eq_gathered events incoming
  refine ⟨fun few => ?_, fun many => ?_⟩
  · exact (merge_of_le (eq ▸ few)).trans eq
  · have taken : kept = (newestFirst all).take cap := by
      rw [← eq]
      exact merge_of_lt (eq ▸ many)
    have cut := cut_newestFirst many
    have sorted := newestFirst_precedes all
    rw [← List.take_append_drop cap (newestFirst all)] at sorted
    rw [← taken] at cut sorted
    obtain ⟨ordered, -, behind⟩ := List.pairwise_append.1 sorted
    have names : ((kept ++ (newestFirst all).drop cap).map (·.uid)).Nodup :=
      (cut.perm.map (·.uid)).nodup_iff.2 (nodup_gathered distinct incoming)
    rw [List.map_append] at names
    refine ⟨cut.full, fun e member => ?_, (List.nodup_append.1 names).1, ordered, ?_⟩
    · exact cut.perm.subset (List.mem_append_left _ member)
    · intro e member gone k there
      have dropped := (List.mem_append.1 (cut.perm.mem_iff.2 member)).resolve_left gone
      exact ⟨behind k there e dropped, (behind k there e dropped).notBefore⟩

/-- An event of which only the length of the uid and the day of its last observation matter. -/
def pulled (n day : Nat) : Event :=
  { uid := String.ofList (List.replicate n 'e'), kind := "Pod", name := "web", ns := "default"
    reason := "Pulled", message := "pulled", source := "kubelet", type := .normal
    firstObserved := .epoch, lastObserved := { Instant.epoch with day }, count := 1
    resourceUid := "web-1" }

/-- As many events as a resource keeps, on three days. -/
def pulls : List Event := (List.range 100).map fun n => pulled n (n % 3 + 1)

/-- The events of the example have different uids. -/
theorem nodup_pulls : (pulls.map (·.uid)).Nodup := by
  rw [pulls, List.map_map]
  refine List.nodup_range.map fun m n same => ?_
  simpa [pulled] using congrArg String.length same

/-- A known event comes again, and two new ones of which the first comes twice. -/
theorem merge_keeps_latest_pulls :
    let incoming := [pulled 7 5, pulled 100 2, pulled 101 3, pulled 100 4]
    let all := gathered pulls incoming
    let kept := merge pulls incoming
    (pulls.map (·.uid)).Nodup ∧ all = pulls ++ [pulled 100 2, pulled 101 3] ∧ kept.length = 100 ∧
      kept.Pairwise (Precedes all) ∧ ∀ e ∈ all, e ∉ kept → ∀ k ∈ kept, Precedes all k e := by
  intro incoming all kept
  have chosen : all = pulls ++ [pulled 100 2, pulled 101 3] := by decide +kernel
  obtain ⟨-, past⟩ := merge_keeps_latest nodup_pulls incoming
  have many : 100 < all.length := by rw [chosen]; decide
  obtain ⟨length, -, -, ordered, behind⟩ := past many
  exact ⟨nodup_pulls, chosen, length, ordered,
    fun e member gone k there => (behind e member gone k there).1⟩

end ResourceTree.Event
