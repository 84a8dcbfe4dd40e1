import ResourceTree.Proofs.Tree.Lookup
import ResourceTree.Tree.Store

/-!
# Trees up to log lines

Log lines are kept on the nodes but are no part of the structure. `eraseLogs` takes them off, and
two trees that agree without them agree in all that is shown of them elsewhere.
-/

namespace ResourceTree
set_option autoImplicit false

def Resource.eraseLogs (r : Resource) : Resource := { r with logs := [] }

namespace Tree

mutual

/-- The tree with every resource changed and the shape kept. -/
def map (f : Resource → Resource) : Tree → Tree
  | node r cs => node (f r) (mapList f cs)

def mapList (f : Resource → Resource) : List Tree → List Tree
  | [] => []
  | t :: rest => map f t :: mapList f rest

end

/-- The tree without its log lines. -/
def eraseLogs (t : Tree) : Tree := t.map Resource.eraseLogs

mutual

/-- A change of every node is seen in every record, in order. -/
theorem resources_map (f : Resource → Resource) (t : Tree) :
    (t.map f).resources = t.resources.map f := by
  cases t with
  | node r cs => simp [map, resourcesList_map f cs]

theorem resourcesList_map (f : Resource → Resource) (ts : List Tree) :
    resourcesList (mapList f ts) = (resourcesList ts).map f := by
  cases ts with
  | nil => rfl
  | cons t ts => simp [mapList, resources_map f t, resourcesList_map f ts]

end

/-- A change that keeps the uids keeps them in order. -/
theorem uids_map {f : Resource → Resource} (kept : ∀ r, (f r).uid = r.uid) (t : Tree) :
    (t.map f).uids = t.uids := by
  simp only [uids_eq_map, resources_map, List.map_map, Function.comp_def, kept]

mutual

/-- Two changes of every node are one. -/
theorem map_map (f g : Resource → Resource) (t : Tree) :
    (t.map f).map g = t.map fun r => g (f r) := by
  cases t with
  | node r cs => simp only [map, mapList_mapList f g cs]

theorem mapList_mapList (f g : Resource → Resource) (ts : List Tree) :
    mapList g (mapList f ts) = mapList (fun r => g (f r)) ts := by
  cases ts with
  | nil => rfl
  | cons t ts => simp only [mapList, map_map f g t, mapList_mapList f g ts]

end

theorem children_map (f : Resource → Resource) (t : Tree) :
    ((t.map f).children.map resource) = (t.children.map resource).map f := by
  cases t with
  | node r cs =>
    simp only [map, children]
    induction cs with
    | nil => rfl
    | cons t ts ih =>
      cases t with
      | node r' cs' => simp only [mapList, map, List.map_cons, resource, ih]

mutual

/-- A change that a map of resources does not see is not seen in the whole tree either. -/
theorem map_modify {f : Resource → Resource} {g : Tree → Tree} (unseen : ∀ t, (g t).map f = t.map f)
    (uid : String) (t : Tree) : (t.modify uid g).map f = t.map f := by
  cases t with
  | node r cs =>
    simp only [modify]
    split
    · exact unseen _
    · simp only [map, mapList_modifyList unseen uid cs]

theorem mapList_modifyList {f : Resource → Resource} {g : Tree → Tree}
    (unseen : ∀ t, (g t).map f = t.map f) (uid : String) (ts : List Tree) :
    mapList f (modifyList uid g ts) = mapList f ts := by
  cases ts with
  | nil => rfl
  | cons t ts =>
    simp only [modifyList]
    split
    · simp only [mapList, map_modify unseen uid t]
    · simp only [mapList, mapList_modifyList unseen uid ts]

end

/-- A log line at one node does not show in the tree without log lines. -/
theorem eraseLogs_modify_prependLog (uid : String) (buffer : Nat) (line : LogLine) (t : Tree) :
    (t.modify uid (Store.prependLog buffer line)).eraseLogs = t.eraseLogs := by
  refine map_modify (fun t => ?_) uid t
  cases t with
  | node r cs => rfl

end Tree

/-- A log line changes nothing but log lines. -/
theorem Store.appendLog?_eq_some {s s' : Store} {uid : String} {line : LogLine}
    (h : s.appendLog? uid line = some s') :
    ∃ tree, tree.eraseLogs = s.tree.eraseLogs ∧ s' = { s with tree } := by
  unfold appendLog? at h
  split at h
  · cases h
    exact ⟨_, Tree.eraseLogs_modify_prependLog uid s.logBuffer line s.tree, rfl⟩
  · cases h

end ResourceTree
