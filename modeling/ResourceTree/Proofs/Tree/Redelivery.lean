import ResourceTree.Proofs.Resource.Events
import ResourceTree.Proofs.Tree.Modify
import ResourceTree.Proofs.Tree.Equality
import ResourceTree.Proofs.Tree.Uniqueness

/-!
# Updates that come twice

An update finds the same node when it comes again, and replaces every field but the events by what it
has already written there. The events are merged, so that a second delivery may still change them.
`update_update_iff` says when it does: if one of them resurfaces.
-/

namespace ResourceTree
set_option autoImplicit false

/-- An update that is taken twice changes what it does to the events, if anything. -/
theorem Resource.merge_merge_iff (r incoming : Resource) :
    (r.merge incoming).merge incoming = r.merge incoming ↔
      ¬ Event.Resurfaces r.events incoming.events := by
  rw [← Event.merge_merge_iff]
  have parent : incoming.parentId.or (incoming.parentId.or r.parentId) =
      incoming.parentId.or r.parentId := by
    cases incoming.parentId <;> rfl
  constructor
  · intro same
    exact congrArg Resource.events same
  · intro same
    simp only [Resource.merge, same, parent]

/-- The resource with a uid in place of an empty one. -/
def Resource.named (uid : String) (r : Resource) : Resource :=
  if r.uid = "" then { r with uid } else r

theorem Resource.named_of_uid {r : Resource} {uid : String} (blank : r.uid = "" → uid = "") :
    r.named uid = r := by
  rw [named]
  split
  · next none => rw [blank none, ← none]
  · rfl

namespace Store

variable {s : Store} {t p : Tree}

/-! ## The second delivery -/

/-- An update of the root is merged into it. -/
theorem update_of_root (root : s.targetsRoot t.resource = true) :
    s.update t = (s.change (mergeRoot t.resource s.tree), .applied) := by
  rw [update, if_pos root]

/-- An update of a child is merged into it. -/
theorem update_of_child (below : s.targetsRoot t.resource = false)
    (parent : s.parentOf t.resource.parentId = .ok p)
    (child : p.children.any (·.uid = t.uid) = true) :
    s.update t = (s.changeChildren p (mergeChild t.resource), .applied) := by
  rw [update, below, if_neg Bool.false_ne_true, parent]
  simp only [child, if_true]

theorem mergeRoot_node (incoming r : Resource) (cs : List Tree) :
    mergeRoot incoming (.node r cs) =
      .node ((r.named incoming.uid).merge { incoming with parentId := none }) cs :=
  rfl

/-- An update of the root is one again after the root has taken it. -/
theorem targetsRoot_mergeRoot (incoming : Resource) (root : s.targetsRoot incoming = true) :
    (s.change (mergeRoot incoming s.tree)).targetsRoot incoming = true := by
  simp only [targetsRoot, Bool.or_eq_true, Bool.and_eq_true, decide_eq_true_eq, ne_eq] at root ⊢
  rcases root with ⟨named, own⟩ | flux
  · refine .inl ⟨named, ?_⟩
    show (mergeRoot incoming s.tree).uid = incoming.uid
    cases tree : s.tree with
    | node r cs =>
      rw [tree] at own
      have known : r.uid ≠ "" := fun blank => named (own.symm.trans blank)
      rw [mergeRoot_node, Resource.named_of_uid fun blank => absurd blank known]
      exact own
  · exact .inr flux

theorem any_uid_mergeChild (incoming : Resource) (uid : String) (ts : List Tree) :
    (mergeChild incoming ts).any (·.uid = uid) = ts.any (·.uid = uid) := by
  induction ts with
  | nil => rfl
  | cons t ts ih =>
    cases t with
    | node r cs =>
      rw [mergeChild]
      split
      · rfl
      · rw [List.any_cons, List.any_cons, ih]

/-- The root is as before a second update exactly if its events are. -/
theorem mergeRoot_mergeRoot_iff (incoming : Resource) (t : Tree) :
    mergeRoot incoming (mergeRoot incoming t) = mergeRoot incoming t ↔
      ¬ Event.Resurfaces t.resource.events incoming.events := by
  cases t with
  | node r cs =>
    have events : (r.named incoming.uid).events = r.events := by
      rw [Resource.named]
      split <;> rfl
    have uid : ((r.named incoming.uid).merge { incoming with parentId := none }).uid = "" →
        incoming.uid = "" := by
      show (r.named incoming.uid).uid = "" → incoming.uid = ""
      rw [Resource.named]
      split
      · exact id
      · next named => exact fun blank => absurd blank named
    rw [mergeRoot_node, mergeRoot_node, Resource.named_of_uid uid, Tree.node.injEq,
      and_iff_left rfl, Resource.merge_merge_iff, events]
    rfl

/-- Siblings are as before a second update exactly if the events of the child that takes it are. -/
theorem mergeChild_mergeChild_iff (incoming : Resource) (ts : List Tree) :
    mergeChild incoming (mergeChild incoming ts) = mergeChild incoming ts ↔
      ∀ c, ts.find? (·.uid = incoming.uid) = some c →
        ¬ Event.Resurfaces c.resource.events incoming.events := by
  induction ts with
  | nil => simp [mergeChild]
  | cons t ts ih =>
    cases t with
    | node r cs =>
      have own : (Tree.node r cs).uid = r.uid := rfl
      by_cases here : r.uid = incoming.uid
      · have merged : (r.merge incoming).uid = incoming.uid := here
        have found : (Tree.node r cs :: ts).find? (·.uid = incoming.uid) = some (.node r cs) :=
          List.find?_cons_of_pos (decide_eq_true (own.trans here))
        rw [mergeChild, if_pos here, mergeChild, if_pos merged, List.cons.injEq, Tree.node.injEq,
          and_iff_left rfl, and_iff_left rfl, Resource.merge_merge_iff, found]
        exact ⟨fun quiet c same => Option.some.inj same ▸ quiet, fun quiet => quiet _ rfl⟩
      · have passed : (Tree.node r cs :: ts).find? (·.uid = incoming.uid) =
            ts.find? (·.uid = incoming.uid) :=
          List.find?_cons_of_neg (by rw [own]; simpa using here)
        rw [mergeChild, if_neg here, mergeChild, if_neg here, List.cons.injEq, and_iff_right rfl,
          ih, passed]

/-! ## Both deliveries -/

/-- The resource that an update is merged into, unless the update is refused. -/
def updated? (s : Store) (t : Tree) : Option Resource :=
  if s.targetsRoot t.resource then some s.tree.resource
  else match s.parentOf t.resource.parentId with
    | .error _ => none
    | .ok parent => (parent.children.find? (·.uid = t.uid)).map Tree.resource

theorem updated?_of_root (root : s.targetsRoot t.resource = true) :
    s.updated? t = some s.tree.resource := by
  rw [updated?, if_pos root]

theorem updated?_of_parent (below : s.targetsRoot t.resource = false)
    (parent : s.parentOf t.resource.parentId = .ok p) :
    s.updated? t = (p.children.find? (·.uid = t.uid)).map Tree.resource := by
  rw [updated?, below, if_neg Bool.false_ne_true, parent]

theorem updated?_of_refused {m : Mutation} (refused : s.update t = (s, m)) (other : m ≠ .applied) :
    s.updated? t = none := by
  cases root : s.targetsRoot t.resource with
  | true =>
    rw [update_of_root root] at refused
    exact absurd (congrArg Prod.snd refused).symm other
  | false =>
    cases parent : s.parentOf t.resource.parentId with
    | error m => rw [updated?, root, if_neg Bool.false_ne_true, parent]
    | ok p =>
      rw [updated?_of_parent root parent, Option.map_eq_none_iff, List.find?_eq_none]
      intro c child same
      rw [update_of_child root parent (List.any_eq_true.2 ⟨c, child, same⟩)] at refused
      exact other (congrArg Prod.snd refused).symm

/-- A structural change leaves all but the version as it is exactly if it leaves the tree so. -/
theorem change_eq_iff (s : Store) (tree : Tree) :
    s.change tree = { s with version := (s.change tree).version } ↔ tree = s.tree := by
  constructor
  · intro same
    exact congrArg Store.tree same
  · rintro rfl
    rfl

/-- A change of children leaves the tree exactly if it leaves these children. -/
theorem changeChildren_eq_iff {parentId : Option String} (parent : s.parentOf parentId = .ok p)
    (f : List Tree → List Tree) :
    s.changeChildren p f = { s with version := (s.changeChildren p f).version } ↔
      f p.children = p.children := by
  have found := (parentOf_eq_ok parent).2.1
  rw [changeChildren, change_eq_iff, Tree.modify_eq_self_iff (Tree.uid_onChildren f)]
  cases p with
  | node r cs =>
    constructor
    · intro fixed
      exact congrArg Tree.children (fixed _ found)
    · intro same u there
      cases found.symm.trans there
      exact congrArg (Tree.node r) same

/-- A child that has taken an update is found by it again. -/
theorem update_changeChildren (below : s.targetsRoot t.resource = false)
    (parent : s.parentOf t.resource.parentId = .ok p)
    (child : p.children.any (·.uid = t.uid) = true) :
    (s.changeChildren p (mergeChild t.resource)).update t =
      ((s.changeChildren p (mergeChild t.resource)).changeChildren
        (onChildren (mergeChild t.resource) p) (mergeChild t.resource), .applied) := by
  have still : (s.changeChildren p (mergeChild t.resource)).targetsRoot t.resource = false := by
    have root : (s.changeChildren p (mergeChild t.resource)).tree.uid = s.tree.uid :=
      Tree.uid_modify_onChildren p.uid _ s.tree
    rw [← below, targetsRoot, targetsRoot, root]
    rfl
  have again : (onChildren (mergeChild t.resource) p).children.any (·.uid = t.uid) = true := by
    cases p with
    | node r cs => exact (any_uid_mergeChild t.resource t.uid cs).trans child
  exact update_of_child still (parentOf_changeChildren parent _) again

/-- An update that comes twice is answered as before, and the second delivery changes nothing but the
version if and only if none of its events resurfaces at the node that has taken it. -/
theorem update_update_iff (s : Store) (t : Tree) :
    let first := s.update t
    let second := first.1.update t
    second.2 = first.2 ∧
      (second.1 = { first.1 with version := second.1.version } ↔
        ∀ r, s.updated? t = some r → ¬ Event.Resurfaces r.events t.resource.events) := by
  intro first second
  rcases s.update_cases t with ⟨-, m, refused, eq⟩ | ⟨below, p, parent, child, eq⟩ | ⟨root, eq⟩
  · have once : first = (s, m) := eq
    have twice : second = (s, m) := by
      show first.1.update t = _
      rw [once, eq]
    rw [twice, once, updated?_of_refused eq refused]
    exact ⟨rfl, iff_of_true rfl fun r none => nomatch none⟩
  · have once : first = (s.changeChildren p (mergeChild t.resource), .applied) := eq
    have twice : second = (first.1.changeChildren (onChildren (mergeChild t.resource) p)
        (mergeChild t.resource), .applied) := by
      show first.1.update t = _
      rw [once]
      exact update_changeChildren below parent child
    refine ⟨by rw [twice, once], ?_⟩
    rw [updated?_of_parent below parent, twice, once,
      changeChildren_eq_iff (parentOf_changeChildren parent _)]
    cases p with
    | node r cs =>
      show mergeChild _ (mergeChild _ cs) = mergeChild _ cs ↔ _
      rw [mergeChild_mergeChild_iff]
      simp only [Option.map_eq_some_iff, forall_exists_index, and_imp, forall_apply_eq_imp_iff₂]
      exact Iff.rfl
  · have once : first = (s.change (mergeRoot t.resource s.tree), .applied) := eq
    have twice : second = (first.1.change (mergeRoot t.resource first.1.tree), .applied) := by
      show first.1.update t = _
      rw [once]
      exact update_of_root (targetsRoot_mergeRoot t.resource root)
    refine ⟨by rw [twice, once], ?_⟩
    rw [twice, change_eq_iff, updated?_of_root root, once]
    show mergeRoot _ (mergeRoot _ _) = mergeRoot _ _ ↔ _
    rw [mergeRoot_mergeRoot_iff]
    simp

/-- An event of which only the uid and the day of its last observation matter. -/
def observed (uid : String) (day : Nat) : Event :=
  { uid, kind := "", name := "", ns := "", reason := "", message := "", source := ""
    type := .normal, firstObserved := .epoch, lastObserved := { Instant.epoch with day }
    count := 1, resourceUid := "" }

/-- A workload that holds as many events as it can, one of them older than the others. -/
def eventful : Store :=
  (empty "flux-system" 10).replaceTree
    (.node (placed "root" none)
      [.node
        { placed "web" (some "root") with
          events := observed "probe" 1 :: (List.range 99).map fun n => observed s!"e{n}" 2 }
        []])

/-- The old event is observed again, and there is a new one. -/
def probed : Tree :=
  .node { placed "web" (some "root") with events := [observed "probe" 3, observed "start" 3] } []

/-- The old event makes room for the new one, and comes back with the second delivery. -/
theorem probe_resurfaces :
    let first := eventful.update probed
    let second := first.1.update probed
    first.2 = .applied ∧ second.2 = .applied ∧ second.1.tree ≠ first.1.tree := by
  intro first second
  have once : first.1.tree = .node eventful.tree.resource
      (mergeChild probed.resource eventful.tree.children) := rfl
  have twice : second.1.tree = .node eventful.tree.resource
      (mergeChild probed.resource (mergeChild probed.resource eventful.tree.children)) := rfl
  refine ⟨rfl, rfl, fun same => ?_⟩
  rw [once, twice] at same
  refine (mergeChild_mergeChild_iff _ _).1 (Tree.node.inj same).2 _ rfl ?_
  refine Event.resurfaces_of_oldest (observed "probe" 1) (observed "probe" 3) ?_ ?_ ?_ ?_ ?_ ?_ ?_ <;>
    decide +kernel

end Store

end ResourceTree
