import ResourceTree.Proofs.Tree.OnePlace

/-!
# Walks, look-ups and pre-order

A walk keeps its own stack; look-ups and changes at a uid are recursions over a tree and its children.
All of them see the nodes in one order, whatever uids repeat. `preorder` is the recursive walk that they
are compared with, and what a visitor is shown is compared call by call, by way of a visitor that notes
its calls. The place of a node is given by its address, the numbers of the children that lead to it.
-/

namespace ResourceTree.Tree
set_option autoImplicit false

variable {σ : Type}

mutual

/-- The recursive walk of a tree at some depth: the state of the visitor at the end, and what it was
shown. The children of a node that the visitor prunes are left out. -/
def preorder (visit : σ → Tree → Nat → σ × Visit) (s : σ) (depth : Nat) :
    Tree → σ × List (Tree × Nat)
  | node r cs =>
    match visit s (node r cs) depth with
    | (s', .skipChildren) => (s', [(node r cs, depth)])
    | (s', .proceed) =>
      let below := preorderList visit s' (depth + 1) cs
      (below.1, (node r cs, depth) :: below.2)

def preorderList (visit : σ → Tree → Nat → σ × Visit) (s : σ) (depth : Nat) :
    List Tree → σ × List (Tree × Nat)
  | [] => (s, [])
  | t :: rest =>
    let first := preorder visit s depth t
    let later := preorderList visit first.1 depth rest
    (later.1, first.2 ++ later.2)

end

/-- A visitor that also notes what it is shown. -/
def noting (visit : σ → Tree → Nat → σ × Visit) (s : σ × List (Tree × Nat)) (t : Tree)
    (depth : Nat) : (σ × List (Tree × Nat)) × Visit :=
  let (s', verdict) := visit s.1 t depth
  ((s', s.2 ++ [(t, depth)]), verdict)

/-- What a walk shows to a visitor that prunes nothing: all nodes, each with its depth. -/
def sequence (t : Tree) : List (Tree × Nat) :=
  (t.walk (noting fun s _ _ => (s, .proceed)) ((), [])).2

/-- A node at its place in a tree. -/
structure Place where
  /-- Which child to take at the root, which one there, and so on. -/
  address : List Nat
  tree : Tree

namespace Place

def uid (p : Place) : String := p.tree.uid

def depth (p : Place) : Nat := p.address.length

/-- What is a place below a child is one below the node too. -/
def under (child : Nat) (p : Place) : Place := ⟨child :: p.address, p.tree⟩

end Place

mutual

/-- All places in pre-order. -/
def places : Tree → List Place
  | node r cs => ⟨[], node r cs⟩ :: placesList 0 cs

/-- The same for the children of a node from one of them on. -/
def placesList (child : Nat) : List Tree → List Place
  | [] => []
  | t :: rest => (places t).map (.under child) ++ placesList (child + 1) rest

end

/-- A tree with another one in place of what stands at an address. -/
def putAt : Tree → List Nat → Tree → Tree
  | _, [], new => new
  | node r cs, child :: address, new => node r (cs.modify child (·.putAt address new))

variable {visit : σ → Tree → Nat → σ × Visit}

/-! ## The stack and the recursion -/

mutual

/-- A walk goes through the tree on top of its stack as the recursive walk does, and then on. -/
theorem walkStack_noting (s : σ) (seen : List (Tree × Nat)) (depth : Nat) (t : Tree)
    (rest : List (Tree × Nat)) :
    walkStack (noting visit) (s, seen) ((t, depth) :: rest) =
      walkStack (noting visit)
        ((t.preorder visit s depth).1, seen ++ (t.preorder visit s depth).2) rest := by
  cases t with
  | node r cs =>
    rw [walkStack, noting, preorder]
    match visit s (node r cs) depth with
    | (s', .skipChildren) => rfl
    | (s', .proceed) =>
      simp only
      rw [walkStack_noting_siblings s' _ (depth + 1) cs rest, List.append_assoc]
      rfl

/-- Siblings on the stack are walked through like those of a tree. -/
theorem walkStack_noting_siblings (s : σ) (seen : List (Tree × Nat)) (depth : Nat) (ts : List Tree)
    (rest : List (Tree × Nat)) :
    walkStack (noting visit) (s, seen) (atDepth depth ts ++ rest) =
      walkStack (noting visit)
        ((preorderList visit s depth ts).1, seen ++ (preorderList visit s depth ts).2) rest := by
  cases ts with
  | nil => rw [preorderList, List.append_nil]; rfl
  | cons t ts =>
    have first := walkStack_noting s seen depth t (atDepth depth ts ++ rest)
    have later := walkStack_noting_siblings (t.preorder visit s depth).1
      (seen ++ (t.preorder visit s depth).2) depth ts rest
    rw [List.append_assoc] at later
    exact first.trans later

end

/-- The walk with its notes is the recursive one. -/
theorem walk_noting (visit : σ → Tree → Nat → σ × Visit) (s : σ) (t : Tree) :
    t.walk (noting visit) (s, []) = t.preorder visit s 0 := by
  rw [walk, walkStack_noting, walkStack, List.nil_append]

/-- A visitor is not disturbed by the notes. -/
theorem walkStack_noting_fst (s : σ) (seen : List (Tree × Nat)) (stack : List (Tree × Nat)) :
    (walkStack (noting visit) (s, seen) stack).1 = walkStack visit s stack := by
  fun_induction walkStack visit s stack generalizing seen with
  | case1 s => rw [walkStack]
  | case2 s r cs depth rest s' verdict ih =>
    rw [walkStack, noting, verdict]
    exact ih _
  | case3 s r cs depth rest s' verdict ih =>
    rw [walkStack, noting, verdict]
    exact ih _

/-- The walk comes to the state of the recursive one. -/
theorem walk_eq_preorder (visit : σ → Tree → Nat → σ × Visit) (s : σ) (t : Tree) :
    t.walk visit s = (t.preorder visit s 0).1 := by
  rw [← walk_noting]
  exact (walkStack_noting_fst s [] [(t, 0)]).symm

/-! ## All nodes -/

mutual

/-- A visitor that always proceeds is shown every place at its depth. -/
theorem preorder_proceed (depth : Nat) (t : Tree) :
    (t.preorder (fun s _ _ => (s, .proceed)) () depth).2 =
      t.places.map fun p => (p.tree, depth + p.depth) := by
  cases t with
  | node r cs =>
    rw [places, List.map_cons, ← preorderList_proceed depth 0 cs]
    rfl

theorem preorderList_proceed (depth child : Nat) (ts : List Tree) :
    (preorderList (fun s _ _ => (s, .proceed)) () (depth + 1) ts).2 =
      (placesList child ts).map fun p => (p.tree, depth + p.depth) := by
  cases ts with
  | nil => rfl
  | cons t ts =>
    have first : (t.preorder (fun s _ _ => (s, .proceed)) () (depth + 1)).2 =
        (t.places.map (Place.under child)).map fun p => (p.tree, depth + p.depth) := by
      rw [preorder_proceed, List.map_map]
      refine List.map_congr_left fun p _ => ?_
      simp only [Function.comp_apply, Place.under, Place.depth, List.length_cons]
      rw [Nat.add_assoc, Nat.add_comm 1]
    rw [preorderList, placesList, List.map_append, ← first,
      ← preorderList_proceed depth (child + 1) ts]

end

/-- A walk that prunes nothing goes through all places in pre-order. -/
theorem sequence_eq (t : Tree) : t.sequence = t.places.map fun p => (p.tree, p.depth) := by
  rw [sequence, walk_noting, preorder_proceed]
  simp only [Nat.zero_add]

mutual

/-- The trees at the places are the subtrees, in order. -/
theorem map_tree_places (t : Tree) : t.places.map (·.tree) = t.subtrees := by
  cases t with
  | node r cs => rw [places, subtrees, List.map_cons, map_tree_placesList 0 cs]

theorem map_tree_placesList (child : Nat) (ts : List Tree) :
    (placesList child ts).map (·.tree) = subtreesList ts := by
  cases ts with
  | nil => rfl
  | cons t ts =>
    rw [placesList, subtreesList, List.map_append, List.map_map, map_tree_placesList (child + 1) ts,
      ← map_tree_places t]
    rfl

end

mutual

/-- The size counts the subtrees. -/
theorem size_eq_length (t : Tree) : t.size = t.subtrees.length := by
  cases t with
  | node r cs => rw [size, subtrees, List.length_cons, sizeList_eq_length cs, Nat.add_comm]

theorem sizeList_eq_length (ts : List Tree) : sizeList ts = (subtreesList ts).length := by
  cases ts with
  | nil => rfl
  | cons t ts =>
    rw [sizeList, subtreesList, List.length_append, size_eq_length t, sizeList_eq_length ts]

end

/-! ## The first node of a uid -/

@[simp]
theorem uid_node (r : Resource) (cs : List Tree) : (node r cs).uid = r.uid := rfl

mutual

/-- A lookup finds the first subtree of the uid. -/
theorem find?_eq_subtrees (uid : String) (t : Tree) :
    t.find? uid = t.subtrees.find? (·.uid = uid) := by
  cases t with
  | node r cs =>
    rw [find?, subtrees, List.find?_cons, uid_node, findList?_eq_subtrees uid cs]
    by_cases here : r.uid = uid
    · rw [if_pos here, decide_eq_true here]
    · rw [if_neg here, decide_eq_false here]

theorem findList?_eq_subtrees (uid : String) (ts : List Tree) :
    findList? uid ts = (subtreesList ts).find? (·.uid = uid) := by
  cases ts with
  | nil => rfl
  | cons t ts =>
    rw [findList?, subtreesList, List.find?_append, find?_eq_subtrees uid t,
      findList?_eq_subtrees uid ts]

end

/-- A lookup finds the tree at the first place of the uid. -/
theorem find?_eq_places (uid : String) (t : Tree) :
    t.find? uid = (t.places.find? (·.uid = uid)).map (·.tree) := by
  rw [find?_eq_subtrees, ← map_tree_places, List.find?_map]
  rfl

mutual

/-- A change at a uid puts another node at the first place of the uid. -/
theorem modify_eq_putAt {uid : String} {f : Tree → Tree} {t : Tree} {p : Place}
    (first : t.places.find? (·.uid = uid) = some p) :
    t.modify uid f = t.putAt p.address (f p.tree) := by
  cases t with
  | node r cs =>
    rw [places, List.find?_cons, Place.uid, uid_node] at first
    by_cases here : r.uid = uid
    · rw [decide_eq_true here] at first
      cases first
      rw [modify, if_pos here, putAt]
    · rw [decide_eq_false here] at first
      obtain ⟨child, address, same, changed⟩ := modifyList_eq_putAt (f := f) first
      rw [modify, if_neg here, changed, same, Nat.zero_add, putAt]

/-- In siblings a change is made at the first place of the uid. -/
theorem modifyList_eq_putAt {uid : String} {f : Tree → Tree} {child : Nat} {ts : List Tree}
    {p : Place} (first : (placesList child ts).find? (·.uid = uid) = some p) :
    ∃ i address, p.address = (child + i) :: address ∧
      modifyList uid f ts = ts.modify i (·.putAt address (f p.tree)) := by
  cases ts with
  | nil => cases first
  | cons t ts =>
    have found := find?_eq_places uid t
    have below : (t.places.map (Place.under child)).find? (·.uid = uid) =
        (t.places.find? (·.uid = uid)).map (Place.under child) := List.find?_map ..
    rw [placesList, List.find?_append, below] at first
    cases here : t.places.find? (·.uid = uid) with
    | some q =>
      -- A change looks first whether the uid stands in the child at all, which is so.
      rw [here] at first found
      cases first
      refine ⟨0, q.address, rfl, ?_⟩
      rw [modifyList_cons_of_some found, modify_eq_putAt here, List.modify_zero_cons]
      rfl
    | none =>
      rw [here] at first found
      obtain ⟨i, address, same, changed⟩ := modifyList_eq_putAt (f := f) first
      refine ⟨i + 1, address, by rw [same, Nat.add_assoc, Nat.add_comm 1], ?_⟩
      rw [modifyList_cons_of_none found, changed, List.modify_succ_cons]

end

/-- The sequence of the walk has the subtrees in order. -/
theorem map_fst_sequence (t : Tree) : t.sequence.map (·.1) = t.subtrees := by
  rw [sequence_eq, List.map_map, ← map_tree_places]
  rfl

/-- The uids are those that a walk comes to, in its order. -/
theorem uids_eq_sequence (t : Tree) : t.uids = t.sequence.map (·.1.uid) := by
  rw [Tree.uids, ← map_fst_sequence, List.map_map]
  rfl

/-- For every visitor, a walk makes the calls of the recursive walk in their order and ends in its state.
Look-ups and changes at a uid go to the first node of the uid that a walk without pruning shows, and the
uids and the size are those of the nodes that it shows, each time it shows them. -/
theorem walk_and_lookups (t : Tree) :
    (∀ {σ : Type} (visit : σ → Tree → Nat → σ × Visit) (s : σ),
      t.walk (noting visit) (s, []) = t.preorder visit s 0 ∧
        t.walk visit s = (t.preorder visit s 0).1) ∧
    t.sequence = t.places.map (fun p => (p.tree, p.depth)) ∧
    (∀ uid, t.find? uid = (t.sequence.find? (·.1.uid = uid)).map (·.1)) ∧
    (∀ uid f, t.modify uid f =
      ((t.places.find? (·.uid = uid)).map fun p => t.putAt p.address (f p.tree)).getD t) ∧
    (∀ uid, t.contains uid = true ↔ uid ∈ t.sequence.map (·.1.uid)) ∧
    t.uids = t.sequence.map (·.1.uid) ∧
    t.size = t.sequence.length := by
  have trees := map_fst_sequence t
  refine ⟨fun visit s => ⟨walk_noting visit s t, walk_eq_preorder visit s t⟩, sequence_eq t, ?_, ?_, ?_,
    uids_eq_sequence t, ?_⟩
  · intro uid
    rw [find?_eq_subtrees, ← trees, List.find?_map]
    rfl
  · intro uid f
    cases first : t.places.find? (·.uid = uid) with
    | some p => exact modify_eq_putAt first
    | none =>
      have absent : t.find? uid = none := by rw [find?_eq_places, first, Option.map_none]
      exact modify_fixed fun u found => by cases absent.symm.trans found
  · intro uid
    rw [contains_iff, uids_eq_sequence]
  · rw [size_eq_length, ← trees, List.length_map]

end ResourceTree.Tree
