import ResourceTree.Proofs.Tree.Logs

/-!
# What a walk depends on

A walk shows every node to a visitor with a state. What the visitor keeps, the walk keeps, and a
change of resources that the visitor does not see is not seen by the walk either.
-/

namespace ResourceTree.Tree
set_option autoImplicit false

variable {σ : Type} {visit : σ → Tree → Nat → σ × Visit}

/-- What every visit keeps holds when the walk is over, wherever it was pruned or stopped. -/
theorem walkStack_invariant {I : σ → Prop} (keeps : ∀ s t depth, I s → I (visit s t depth).1)
    {s : σ} (start : I s) (stack : List (Tree × Nat)) : I (walkStack visit s stack) := by
  fun_induction walkStack visit s stack with
  | case1 s => exact start
  | case2 s r cs depth rest s' verdict ih =>
    refine ih ?_
    have kept := keeps s (node r cs) depth start
    rwa [verdict] at kept
  | case3 s r cs depth rest s' verdict ih =>
    refine ih ?_
    have kept := keeps s (node r cs) depth start
    rwa [verdict] at kept

theorem mapList_eq_map (f : Resource → Resource) (ts : List Tree) :
    mapList f ts = ts.map (map f) := by
  induction ts with
  | nil => rfl
  | cons t ts ih => rw [mapList, ih, List.map_cons]

/-- The stack with the resources of all of its trees changed. -/
def mapStack (f : Resource → Resource) (stack : List (Tree × Nat)) : List (Tree × Nat) :=
  stack.map fun entry => (entry.1.map f, entry.2)

/-- The children of a changed tree stand on the stack as the changed children. -/
theorem mapStack_push (f : Resource → Resource) (cs : List Tree) (depth : Nat)
    (rest : List (Tree × Nat)) :
    mapStack f (atDepth depth cs ++ rest) = atDepth depth (mapList f cs) ++ mapStack f rest := by
  simp [mapStack, atDepth, mapList_eq_map, Function.comp_def]

/-- A visitor that does not see a change comes to the same state on every stack. -/
theorem walkStack_map {f : Resource → Resource}
    (unseen : ∀ s t depth, visit s (t.map f) depth = visit s t depth) (s : σ)
    (stack : List (Tree × Nat)) :
    walkStack visit s (mapStack f stack) = walkStack visit s stack := by
  fun_induction walkStack visit s stack with
  | case1 s => rw [mapStack, List.map_nil, walkStack]
  | case2 s r cs depth rest s' verdict ih =>
    have shown := unseen s (node r cs) depth
    rw [verdict, map] at shown
    rw [mapStack, List.map_cons, map, walkStack, shown]
    exact ih
  | case3 s r cs depth rest s' verdict ih =>
    have shown := unseen s (node r cs) depth
    rw [verdict, map] at shown
    rw [mapStack, List.map_cons, map, walkStack, shown]
    rw [mapStack_push] at ih
    exact ih

/-- A visitor that does not see a change comes to the same state on the changed tree. -/
theorem walk_map {f : Resource → Resource}
    (unseen : ∀ s t depth, visit s (t.map f) depth = visit s t depth) (s : σ) (t : Tree) :
    (t.map f).walk visit s = t.walk visit s :=
  walkStack_map unseen s [(t, 0)]

mutual

/-- A change that keeps the uids is found where the tree itself was. -/
theorem find?_map {f : Resource → Resource} (kept : ∀ r, (f r).uid = r.uid) (uid : String)
    (t : Tree) : (t.map f).find? uid = (t.find? uid).map (map f) := by
  cases t with
  | node r cs =>
    rw [map, find?, find?, kept]
    split
    · rw [Option.map_some, map]
    · exact findList?_map kept uid cs

theorem findList?_map {f : Resource → Resource} (kept : ∀ r, (f r).uid = r.uid) (uid : String)
    (ts : List Tree) : findList? uid (mapList f ts) = (findList? uid ts).map (map f) := by
  cases ts with
  | nil => rfl
  | cons t ts =>
    rw [mapList, findList?, findList?, find?_map kept uid t, findList?_map kept uid ts]
    cases t.find? uid with
    | none => rw [Option.map_none, Option.none_or, Option.none_or]
    | some p => rw [Option.map_some, Option.some_or, Option.some_or, Option.map_some]

end

/-- The same holds of lookups that pass over the empty uid. -/
theorem resolve?_map {f : Resource → Resource} (kept : ∀ r, (f r).uid = r.uid) (uid : String)
    (t : Tree) : (t.map f).resolve? uid = (t.resolve? uid).map (map f) := by
  unfold resolve?
  split
  · rfl
  · exact find?_map kept uid t

end ResourceTree.Tree
