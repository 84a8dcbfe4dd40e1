import ResourceTree.Proofs.Text.Joined
import ResourceTree.Proofs.Tree.Equality
import ResourceTree.Proofs.Tree.Uniqueness
import ResourceTree.Proofs.Tree.Walk

/-!
# What a fingerprint tells apart

A fingerprint lists the nodes of a tree in pre-order, each with its uid, its status and the number of its
children, as one text. Its entries can be told apart as long as no uid holds the mark between them, an
entry says what it was made of even if the uid holds the mark within entries, and with the numbers of
children a list of entries is the list of one tree only. `fingerprint_eq_iff` puts that together.
-/

namespace ResourceTree
set_option autoImplicit false

/-- Different statuses have different names. -/
theorem Status.name_inj {s s' : Status} (same : s.name = s'.name) : s = s' := by
  have read : ∀ s : Status, ofName? s.name = some s := by
    intro s
    cases s <;> decide
  exact Option.some.inj ((read s).symm.trans (same ▸ read s'))

/-- The resource with nothing but what a fingerprint shows of it. -/
def Resource.glimpse (r : Resource) : Resource :=
  { Resource.placeholder with uid := r.uid, status := r.status }

namespace Tree

/-- The tree with nothing but uids and statuses left on its nodes. -/
def sketch (t : Tree) : Tree := t.map Resource.glimpse

/-! ## Entries -/

theorem not_mem_status_name (s : Status) : ':' ∉ s.name.toList ∧ ';' ∉ s.name.toList := by
  cases s <;> decide

theorem not_mem_toDigits {c : Char} (mark : c.isDigit = false) (n : Nat) : c ∉ Nat.toDigits 10 n := by
  intro member
  have digit := Nat.isDigit_of_mem_toDigits (by decide) (by decide) member
  rw [mark] at digit
  cases digit

/-- An entry is a uid, a status and the number of children, with colons between them. -/
theorem toList_fingerprintEntry (t : Tree) :
    t.fingerprintEntry.toList =
      (t.uid.toList ++ ':' :: t.resource.status.name.toList) ++
        ':' :: Nat.toDigits 10 t.children.length := by
  simp [fingerprintEntry]

/-- An entry holds no semicolon if the uid holds none. -/
theorem not_mem_fingerprintEntry {t : Tree} (free : ';' ∉ t.uid.toList) :
    ';' ∉ t.fingerprintEntry.toList := by
  rw [toList_fingerprintEntry]
  simp [free, (not_mem_status_name t.resource.status).2,
    not_mem_toDigits (c := ';') rfl t.children.length]

/-- An entry is taken apart from its end, since a uid may hold the mark within entries too. -/
theorem fingerprintEntry_inj {t u : Tree} (same : t.fingerprintEntry = u.fingerprintEntry) :
    t.resource.glimpse = u.resource.glimpse ∧ t.children.length = u.children.length := by
  have chars := congrArg String.toList same
  rw [toList_fingerprintEntry, toList_fingerprintEntry] at chars
  obtain ⟨front, digits⟩ := Text.append_cons_inj_of_last (not_mem_toDigits rfl _)
    (not_mem_toDigits rfl _) chars
  obtain ⟨uids, names⟩ := Text.append_cons_inj_of_last (not_mem_status_name _).1
    (not_mem_status_name _).1 front
  have uid : t.resource.uid = u.resource.uid := String.toList_inj.1 uids
  have status := Status.name_inj (String.toList_inj.1 names)
  have count := congrArg (Nat.ofDigitChars 10 · 0) digits
  rw [Nat.ofDigitChars_ten_toDigits, Nat.ofDigitChars_ten_toDigits] at count
  refine ⟨?_, count⟩
  rw [Resource.glimpse, Resource.glimpse, uid, status]

/-! ## Lists of entries -/

mutual

/-- The entries of a tree say where they end: two lists that begin with those of a tree show one sketch
and go on alike. -/
theorem sketch_eq_of_entries {t u : Tree} {rest rest' : List String}
    (same : t.subtrees.map fingerprintEntry ++ rest = u.subtrees.map fingerprintEntry ++ rest') :
    t.sketch = u.sketch ∧ rest = rest' := by
  cases t with
  | node r cs =>
    cases u with
    | node r' cs' =>
      rw [subtrees, subtrees, List.map_cons, List.map_cons, List.cons_append, List.cons_append] at same
      obtain ⟨first, below⟩ := List.cons.inj same
      obtain ⟨own, count⟩ := fingerprintEntry_inj first
      obtain ⟨children, rests⟩ := sketchList_eq_of_entries count below
      exact ⟨congrArg₂ node own children, rests⟩

-- What follows siblings may look like one more of them: only their number says where they end.
theorem sketchList_eq_of_entries {ts us : List Tree} {rest rest' : List String}
    (count : ts.length = us.length)
    (same : (subtreesList ts).map fingerprintEntry ++ rest =
      (subtreesList us).map fingerprintEntry ++ rest') :
    mapList Resource.glimpse ts = mapList Resource.glimpse us ∧ rest = rest' := by
  cases ts with
  | nil =>
    cases us with
    | nil => exact ⟨rfl, same⟩
    | cons u us => cases count
  | cons t ts =>
    cases us with
    | nil => cases count
    | cons u us =>
      rw [subtreesList, subtreesList, List.map_append, List.map_append, List.append_assoc,
        List.append_assoc] at same
      obtain ⟨first, later⟩ := sketch_eq_of_entries same
      obtain ⟨others, rests⟩ := sketchList_eq_of_entries (Nat.succ.inj count) later
      exact ⟨congrArg₂ List.cons first others, rests⟩

end

mutual

/-- The subtrees of a changed tree are the changed subtrees. -/
theorem subtrees_map (f : Resource → Resource) (t : Tree) :
    (t.map f).subtrees = t.subtrees.map (map f) := by
  cases t with
  | node r cs => rw [map, subtrees, subtrees, List.map_cons, map, subtreesList_mapList f cs]

theorem subtreesList_mapList (f : Resource → Resource) (ts : List Tree) :
    subtreesList (mapList f ts) = (subtreesList ts).map (map f) := by
  cases ts with
  | nil => rfl
  | cons t ts =>
    rw [mapList, subtreesList, subtreesList, List.map_append, subtrees_map f t,
      subtreesList_mapList f ts]

end

theorem fingerprintEntry_sketch (t : Tree) : t.sketch.fingerprintEntry = t.fingerprintEntry := by
  cases t with
  | node r cs =>
    rw [sketch, map, fingerprintEntry, fingerprintEntry, mapList_eq_map]
    simp only [children, List.length_map]
    rfl

/-- The fingerprint shows no more than the sketch. -/
theorem fingerprint_sketch (t : Tree) : t.sketch.fingerprint = t.fingerprint := by
  rw [fingerprint, fingerprint, sketch, subtrees_map, List.map_map]
  exact congrArg _ (List.map_congr_left fun u _ => fingerprintEntry_sketch u)

/-- The entries of two trees are known from their fingerprints, if no uid holds the mark between
entries. -/
theorem entries_eq_of_fingerprint {t u : Tree} (free : ∀ uid ∈ t.uids, ';' ∉ uid.toList)
    (free' : ∀ uid ∈ u.uids, ';' ∉ uid.toList) (same : t.fingerprint = u.fingerprint) :
    t.subtrees.map fingerprintEntry = u.subtrees.map fingerprintEntry := by
  have entries : ∀ {t : Tree}, (∀ uid ∈ t.uids, ';' ∉ uid.toList) →
      ∀ entry ∈ t.subtrees.map fingerprintEntry, ';' ∉ entry.toList := by
    rintro t free _ member
    obtain ⟨v, inside, rfl⟩ := List.mem_map.1 member
    exact not_mem_fingerprintEntry (free _ (List.mem_map_of_mem inside))
  have listed : ∀ t : Tree, t.subtrees.map fingerprintEntry ≠ [] := by
    intro t
    cases t with
    | node r cs => simp [subtrees]
  exact Text.intercalate_inj (listed t) (listed u) (entries free) (entries free') same

/-- Where no uid holds a semicolon, two fingerprints are equal exactly if the trees have the same shape
and at each place the same uid and status. -/
theorem fingerprint_eq_iff {t u : Tree} (free : ∀ uid ∈ t.uids, ';' ∉ uid.toList)
    (free' : ∀ uid ∈ u.uids, ';' ∉ uid.toList) :
    t.fingerprint = u.fingerprint ↔ t.sketch = u.sketch := by
  constructor
  · intro same
    have entries := congrArg (· ++ []) (entries_eq_of_fingerprint free free' same)
    exact (sketch_eq_of_entries entries).1
  · intro same
    rw [← fingerprint_sketch t, same, fingerprint_sketch]

/-- The same three nodes in the same order, one below the other and side by side. Uids look like entries
themselves. -/
theorem fingerprint_eq_iff_colons :
    let leaf (uid : String) : Tree := .node (Store.placed uid none) []
    let chain : Tree := .node (Store.placed "a:unknown:1" none)
      [.node (Store.placed "b:unknown" none) [leaf ":0"]]
    let fork : Tree := .node (Store.placed "a:unknown:1" none) [leaf "b:unknown", leaf ":0"]
    (∀ uid ∈ chain.uids, ';' ∉ uid.toList) ∧ (∀ uid ∈ fork.uids, ';' ∉ uid.toList) ∧
      (chain.fingerprint = fork.fingerprint ↔ chain.sketch = fork.sketch) ∧
      chain.sketch ≠ fork.sketch := by
  intro leaf chain fork
  have free : ∀ uid ∈ chain.uids, ';' ∉ uid.toList := by decide
  have free' : ∀ uid ∈ fork.uids, ';' ∉ uid.toList := by decide
  exact ⟨free, free', fingerprint_eq_iff free free', by decide⟩

end Tree

end ResourceTree
