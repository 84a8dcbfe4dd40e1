import ResourceTree.Proofs.Tree.Logs
import ResourceTree.Proofs.Tree.Walk
import ResourceTree.Tree.Run

/-!
# Deltas do not see log lines

All that a delta goes by is the tree without its log lines and the namespace of the root: version,
selection and listings do not matter to it, nor does what the pods have logged. `bare` is the part of
a store that it goes by, and `apply_bare` says that it comes to the same on that part alone.
-/

namespace ResourceTree
set_option autoImplicit false

theorem Resource.uid_eraseLogs (r : Resource) : r.eraseLogs.uid = r.uid := rfl

theorem Resource.eraseLogs_eraseLogs (r : Resource) : r.eraseLogs.eraseLogs = r.eraseLogs := rfl

/-- A merge takes nothing from the log lines of the older record. -/
theorem Resource.merge_eraseLogs (r incoming : Resource) :
    (r.eraseLogs.merge incoming).eraseLogs = (r.merge incoming).eraseLogs := rfl

namespace Tree

/-- The trees of a list without their log lines. -/
def eraseLogsList (ts : List Tree) : List Tree := mapList Resource.eraseLogs ts

theorem eraseLogsList_eq_map (ts : List Tree) : eraseLogsList ts = ts.map eraseLogs :=
  mapList_eq_map _ ts

/-- Log lines are erased at the root and in every child. -/
theorem eraseLogs_node (r : Resource) (cs : List Tree) :
    (node r cs).eraseLogs = node r.eraseLogs (eraseLogsList cs) := rfl

theorem eraseLogs_eraseLogs (t : Tree) : t.eraseLogs.eraseLogs = t.eraseLogs := map_map _ _ t

theorem eraseLogsList_eraseLogsList (ts : List Tree) :
    eraseLogsList (eraseLogsList ts) = eraseLogsList ts := mapList_mapList _ _ ts

theorem uid_eraseLogs (t : Tree) : t.eraseLogs.uid = t.uid := by
  cases t with
  | node r cs => rfl

/-- A node is found in the tree without log lines where it stands in the tree. -/
theorem find?_eraseLogs (uid : String) (t : Tree) :
    t.eraseLogs.find? uid = (t.find? uid).map eraseLogs :=
  find?_map Resource.uid_eraseLogs uid t

/-- Log lines hide no node. -/
theorem contains_eraseLogs (uid : String) (t : Tree) :
    t.eraseLogs.contains uid = t.contains uid := by
  rw [contains, find?_eraseLogs, Option.isSome_map, contains]

theorem any_uid_eraseLogs (uid : String) (ts : List Tree) :
    (eraseLogsList ts).any (·.uid = uid) = ts.any (·.uid = uid) := by
  rw [eraseLogsList_eq_map, List.any_map]
  simp only [Function.comp_def, uid_eraseLogs]

variable {f : Tree → Tree}

mutual

/-- A change that goes by more than log lines can be made with them or without. -/
theorem modify_eraseLogs (blind : ∀ u, (f u.eraseLogs).eraseLogs = (f u).eraseLogs) (uid : String)
    (t : Tree) : (t.eraseLogs.modify uid f).eraseLogs = (t.modify uid f).eraseLogs := by
  cases t with
  | node r cs =>
    rw [eraseLogs_node, modify, modify]
    by_cases here : r.uid = uid
    · rw [if_pos here, if_pos (show r.eraseLogs.uid = uid from here)]
      exact blind (node r cs)
    · rw [if_neg here, if_neg (show ¬ r.eraseLogs.uid = uid from here), eraseLogs_node,
        eraseLogs_node, modifyList_eraseLogs blind uid cs, r.eraseLogs_eraseLogs]

/-- A change that is blind to log lines is so in every tree of a list. -/
theorem modifyList_eraseLogs (blind : ∀ u, (f u.eraseLogs).eraseLogs = (f u).eraseLogs)
    (uid : String) (ts : List Tree) :
    eraseLogsList (modifyList uid f (eraseLogsList ts)) = eraseLogsList (modifyList uid f ts) := by
  cases ts with
  | nil => rfl
  | cons t ts =>
    have first : eraseLogsList (t :: ts) = t.eraseLogs :: eraseLogsList ts := rfl
    rw [first, modifyList, modifyList, find?_eraseLogs, Option.isSome_map]
    by_cases inside : (t.find? uid).isSome
    · rw [if_pos inside, if_pos inside]
      show (t.eraseLogs.modify uid f).eraseLogs :: eraseLogsList (eraseLogsList ts) =
        (t.modify uid f).eraseLogs :: eraseLogsList ts
      rw [modify_eraseLogs blind uid t, eraseLogsList_eraseLogsList]
    · rw [if_neg inside, if_neg inside]
      show t.eraseLogs.eraseLogs :: eraseLogsList (modifyList uid f (eraseLogsList ts)) =
        t.eraseLogs :: eraseLogsList (modifyList uid f ts)
      rw [eraseLogs_eraseLogs, modifyList_eraseLogs blind uid ts]

end

end Tree

namespace Store

open ResourceTree.Tree (eraseLogsList)

/-- What a delta goes by: the namespace of the root and the tree without its log lines. -/
def bare (s : Store) : Store := { empty s.fluxNamespace 0 with tree := s.tree.eraseLogs }

/-- Stores are alike but for log lines if they agree on the namespace and on the bare tree. -/
theorem bare_eq_iff {s s' : Store} :
    s.bare = s'.bare ↔
      s.fluxNamespace = s'.fluxNamespace ∧ s.tree.eraseLogs = s'.tree.eraseLogs := by
  constructor
  · intro same
    have names : s.bare.fluxNamespace = s'.bare.fluxNamespace := congrArg fluxNamespace same
    have trees : s.bare.tree = s'.bare.tree := congrArg tree same
    exact ⟨names, trees⟩
  · rintro ⟨names, trees⟩
    rw [bare, bare, names, trees]

/-- The selection is no part of what is left. -/
theorem bare_dropStaleSelection (s : Store) : s.dropStaleSelection.bare = s.bare := by
  unfold dropStaleSelection
  split
  · rfl
  · rfl

/-- A snapshot leaves nothing of the tree before it. -/
theorem bare_replaceTree (s : Store) (t : Tree) :
    (s.replaceTree t).bare = { empty s.fluxNamespace 0 with tree := t.eraseLogs } := by
  rw [replaceTree, bare_dropStaleSelection]
  rfl

/-- A log line changes nothing but log lines. -/
theorem bare_appendLog? {s s' : Store} {uid : String} {line : LogLine}
    (appended : s.appendLog? uid line = some s') : s'.bare = s.bare := by
  obtain ⟨tree, same, rfl⟩ := appendLog?_eq_some appended
  exact bare_eq_iff.2 ⟨rfl, same⟩

/-- Parents are found without looking at log lines. -/
theorem parentOf_bare (s : Store) (parentId : Option String) :
    s.bare.parentOf parentId = (s.parentOf parentId).map Tree.eraseLogs := by
  have found : (parentId.bind fun uid => s.bare.tree.find? uid) =
      (parentId.bind fun uid => s.tree.find? uid).map Tree.eraseLogs := by
    cases parentId with
    | none => rfl
    | some uid => exact Tree.find?_eraseLogs uid s.tree
  unfold parentOf
  rw [found]
  cases parentId.bind fun uid => s.tree.find? uid with
  | none => rfl
  | some p =>
    cases p with
    | node r cs =>
      show (if r.isTombstone = true then _ else _) = Except.map _ (if r.isTombstone = true then _ else _)
      split
      · rfl
      · rfl

/-- A child is merged without looking at log lines. -/
theorem mergeChild_eraseLogs (incoming : Resource) (ts : List Tree) :
    eraseLogsList (mergeChild incoming (eraseLogsList ts)) =
      eraseLogsList (mergeChild incoming ts) := by
  induction ts with
  | nil => rfl
  | cons t rest ih =>
    cases t with
    | node r cs =>
      have first : eraseLogsList (.node r cs :: rest) =
          .node r.eraseLogs (eraseLogsList cs) :: eraseLogsList rest := rfl
      rw [first, mergeChild, mergeChild]
      by_cases here : r.uid = incoming.uid
      · rw [if_pos here, if_pos (show r.eraseLogs.uid = incoming.uid from here)]
        show Tree.node (r.eraseLogs.merge incoming).eraseLogs (eraseLogsList (eraseLogsList cs)) ::
            eraseLogsList (eraseLogsList rest) =
          .node (r.merge incoming).eraseLogs (eraseLogsList cs) :: eraseLogsList rest
        rw [r.merge_eraseLogs, Tree.eraseLogsList_eraseLogsList, Tree.eraseLogsList_eraseLogsList]
      · rw [if_neg here, if_neg (show ¬ r.eraseLogs.uid = incoming.uid from here)]
        show Tree.node r.eraseLogs.eraseLogs (eraseLogsList (eraseLogsList cs)) ::
            eraseLogsList (mergeChild incoming (eraseLogsList rest)) =
          .node r.eraseLogs (eraseLogsList cs) :: eraseLogsList (mergeChild incoming rest)
        rw [ih, r.eraseLogs_eraseLogs, Tree.eraseLogsList_eraseLogsList]

/-- A child is attached without looking at log lines. -/
theorem append_eraseLogs (t : Tree) (ts : List Tree) :
    eraseLogsList (eraseLogsList ts ++ [t]) = eraseLogsList (ts ++ [t]) := by
  simp only [Tree.eraseLogsList_eq_map, List.map_append, List.map_map, Function.comp_def,
    Tree.eraseLogs_eraseLogs]

/-- A child is taken away without looking at log lines. -/
theorem eraseP_eraseLogs (uid : String) (ts : List Tree) :
    eraseLogsList ((eraseLogsList ts).eraseP (·.uid = uid)) =
      eraseLogsList (ts.eraseP (·.uid = uid)) := by
  simp only [Tree.eraseLogsList_eq_map, List.eraseP_map, Function.comp_def, Tree.uid_eraseLogs,
    List.map_map, Tree.eraseLogs_eraseLogs]

/-- Children are changed alike with log lines and without. -/
theorem bare_changeChildren (s : Store) (p : Tree) {f : List Tree → List Tree}
    (blind : ∀ ts, eraseLogsList (f (eraseLogsList ts)) = eraseLogsList (f ts)) :
    (s.changeChildren p f).bare = (s.bare.changeChildren p.eraseLogs f).bare := by
  refine bare_eq_iff.2 ⟨rfl, ?_⟩
  show (s.tree.modify p.uid (onChildren f)).eraseLogs =
    (s.tree.eraseLogs.modify p.eraseLogs.uid (onChildren f)).eraseLogs
  rw [Tree.uid_eraseLogs]
  refine (Tree.modify_eraseLogs (fun u => ?_) p.uid s.tree).symm
  cases u with
  | node r cs =>
    show Tree.node r.eraseLogs.eraseLogs (eraseLogsList (f (eraseLogsList cs))) =
      .node r.eraseLogs (eraseLogsList (f cs))
    rw [r.eraseLogs_eraseLogs, blind]

theorem any_uid_children_eraseLogs (uid : String) (p : Tree) :
    p.eraseLogs.children.any (·.uid = uid) = p.children.any (·.uid = uid) := by
  cases p with
  | node r cs => exact Tree.any_uid_eraseLogs uid cs

/-- Two results of a delta that say the same and leave the same for later deltas to go by. -/
def Alike (x y : Store × Mutation) : Prop := x.2 = y.2 ∧ x.1.bare = y.1.bare

theorem bare_bare (s : Store) : s.bare.bare = s.bare :=
  bare_eq_iff.2 ⟨rfl, s.tree.eraseLogs_eraseLogs⟩

/-- An add does to a store without log lines what it does to the store. -/
theorem add_bare (s : Store) (t : Tree) : Alike (s.add t) (s.bare.add t) := by
  unfold add
  rw [parentOf_bare]
  cases s.parentOf t.resource.parentId with
  | error m => exact ⟨rfl, s.bare_bare.symm⟩
  | ok p =>
    have clash : (t.uids.any fun uid => s.bare.tree.contains uid) =
        t.uids.any fun uid => s.tree.contains uid := by
      simp only [bare, Tree.contains_eraseLogs]
    simp only [Except.map, any_uid_children_eraseLogs, clash]
    split
    · exact ⟨rfl, s.bare_changeChildren p (mergeChild_eraseLogs t.resource)⟩
    · split
      · exact ⟨rfl, s.bare_bare.symm⟩
      · exact ⟨rfl, s.bare_changeChildren p (append_eraseLogs t)⟩

/-- The root is merged without looking at log lines. -/
theorem mergeRoot_eraseLogs (incoming : Resource) (t : Tree) :
    (mergeRoot incoming t.eraseLogs).eraseLogs = (mergeRoot incoming t).eraseLogs := by
  cases t with
  | node r cs =>
    have named : (if r.eraseLogs.uid = "" then { r.eraseLogs with uid := incoming.uid }
        else r.eraseLogs) = (if r.uid = "" then { r with uid := incoming.uid } else r).eraseLogs := by
      by_cases blank : r.uid = ""
      · rw [if_pos blank, if_pos (show r.eraseLogs.uid = "" from blank)]
        rfl
      · rw [if_neg blank, if_neg (show ¬ r.eraseLogs.uid = "" from blank)]
    show Tree.node (Resource.merge _ _).eraseLogs (eraseLogsList (eraseLogsList cs)) =
      .node (Resource.merge _ _).eraseLogs (eraseLogsList cs)
    rw [named, Resource.merge_eraseLogs, Tree.eraseLogsList_eraseLogsList]

/-- An update does to a store without log lines what it does to the store. -/
theorem update_bare (s : Store) (t : Tree) : Alike (s.update t) (s.bare.update t) := by
  have root : s.bare.targetsRoot t.resource = s.targetsRoot t.resource := by
    rw [targetsRoot, targetsRoot, bare, Tree.uid_eraseLogs]
    rfl
  unfold update
  rw [root, parentOf_bare]
  split
  · exact ⟨rfl, bare_eq_iff.2 ⟨rfl, (mergeRoot_eraseLogs t.resource s.tree).symm⟩⟩
  · cases s.parentOf t.resource.parentId with
    | error m => exact ⟨rfl, s.bare_bare.symm⟩
    | ok p =>
      simp only [Except.map, any_uid_children_eraseLogs]
      split
      · exact ⟨rfl, s.bare_changeChildren p (mergeChild_eraseLogs t.resource)⟩
      · exact ⟨rfl, s.bare_bare.symm⟩

/-- A removal does to a store without log lines what it does to the store. -/
theorem remove_bare (s : Store) (uid : String) (parentId : Option String) :
    Alike (s.remove uid parentId) (s.bare.remove uid parentId) := by
  unfold remove
  rw [parentOf_bare]
  cases s.parentOf parentId with
  | error m => exact ⟨rfl, s.bare_bare.symm⟩
  | ok p =>
    simp only [Except.map, any_uid_children_eraseLogs]
    split
    · refine ⟨rfl, ?_⟩
      show (dropStaleSelection _).bare = (dropStaleSelection _).bare
      rw [bare_dropStaleSelection, bare_dropStaleSelection]
      exact s.bare_changeChildren p (eraseP_eraseLogs uid)
    · exact ⟨rfl, s.bare_bare.symm⟩

/-- A delta comes to the same on the bare store. -/
theorem apply_bare (s : Store) (d : Delta) : Alike (s.apply d) (s.bare.apply d) := by
  cases d with
  | add t => exact s.add_bare t
  | update t => exact s.update_bare t
  | remove uid parentId => exact s.remove_bare uid parentId

/-- Stores that a delta cannot tell apart take it alike. -/
theorem apply_congr {s s' : Store} (same : s.bare = s'.bare) (d : Delta) :
    Alike (s.apply d) (s'.apply d) := by
  obtain ⟨result, after⟩ := s.apply_bare d
  obtain ⟨result', after'⟩ := s'.apply_bare d
  rw [same] at result after
  exact ⟨result.trans result'.symm, after.trans after'.symm⟩

end Store

end ResourceTree
