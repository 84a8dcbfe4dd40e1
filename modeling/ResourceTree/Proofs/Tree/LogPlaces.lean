import ResourceTree.Proofs.Tree.Flags
import ResourceTree.Proofs.Tree.Uniqueness

/-!
# Where log lines are kept

Log lines belong to the place in the tree where their node stands. A line is put in front at the first
node of a uid; updates and flags leave every node its lines; and trees come and go with all that stands
below them, next to nodes that keep theirs. The ledger of a tree is the tree with nothing but uids and
log lines left on it, and most changes do not show there.
-/

namespace ResourceTree
set_option autoImplicit false

/-- What an update does not replace: the uid and the log lines. -/
def Resource.own (r : Resource) : Resource :=
  { Resource.placeholder with uid := r.uid, logs := r.logs }

namespace Tree

/-- The tree with nothing but the uids and log lines left on its nodes. -/
def ledger (t : Tree) : Tree := t.map Resource.own

/-- Every node stands where it stood, with its uid and log lines; only a root without uid may have been
given one. -/
inductive LogsStay (t t' : Tree) : Prop where
  | same (ledgers : t'.ledger = t.ledger)
  | named (nameless : t.uid = "") (uid : String)
      (ledgers : t'.ledger = onResource (fun r => { r with uid }) t.ledger)

/-- A tree with fresh uids has come in, and around it every node stands where it stood, unchanged. -/
structure Joins (new t t' : Tree) : Prop where
  fresh : ∀ uid ∈ new.uids, uid ∉ t.uids
  around : ∃ before after, t.resources = before ++ after ∧
    t'.resources = before ++ new.resources ++ after

/-- A tree has gone, and around it every node stands where it stood, unchanged. -/
def Leaves (gone t t' : Tree) : Prop :=
  ∃ before after, t.resources = before ++ gone.resources ++ after ∧ t'.resources = before ++ after

/-- A line has been put in front of those of the first node of a uid, of which as many as fit are kept.
Nothing else has changed. -/
structure Logged (buffer : Nat) (uid : String) (line : LogLine) (t t' : Tree) : Prop where
  elsewhere : t'.eraseLogs = t.eraseLogs
  first : ∃ before r after, t.resources = before ++ r :: after ∧ r.uid = uid ∧
    uid ∉ before.map (·.uid) ∧
    t'.resources = before ++ { r with logs := (line :: r.logs).take buffer } :: after

theorem LogsStay.refl (t : Tree) : LogsStay t t := .same rfl

/-- A change of children that does not show in their ledgers does not show in that of the tree. -/
theorem ledger_onChildren {f : List Tree → List Tree}
    (unseen : ∀ ts, mapList Resource.own (f ts) = mapList Resource.own ts) (uid : String) (t : Tree) :
    (t.modify uid (Store.onChildren f)).ledger = t.ledger := by
  refine map_modify (fun u => ?_) uid t
  cases u with
  | node r cs => rw [Store.onChildren, map, map, unseen]

/-- Flags stand in no ledger. -/
theorem ledger_modify_putFlux (uid : String) (flux : Flux) (t : Tree) :
    (t.modify uid (Store.putFlux flux)).ledger = t.ledger := by
  refine map_modify (fun u => ?_) uid t
  cases u with
  | node r cs => rfl

/-- A merged child keeps its uid and its log lines. -/
theorem ledger_mergeChild (incoming : Resource) (ts : List Tree) :
    mapList Resource.own (Store.mergeChild incoming ts) = mapList Resource.own ts := by
  induction ts with
  | nil => rfl
  | cons t ts ih =>
    cases t with
    | node r cs =>
      rw [Store.mergeChild]
      split
      · rfl
      · rw [mapList, mapList, ih]

/-- A merge into the root leaves every log line where it is. -/
theorem logsStay_mergeRoot (incoming : Resource) (t : Tree) :
    LogsStay t (Store.mergeRoot incoming t) := by
  cases t with
  | node r cs =>
    by_cases nameless : r.uid = ""
    · refine .named nameless incoming.uid ?_
      rw [Store.mergeRoot, if_pos nameless]
      rfl
    · refine .same ?_
      rw [Store.mergeRoot, if_neg nameless]
      rfl

/-- A line that is put in front is there at the first node with the uid, and nowhere else. -/
theorem logged_modify {uid : String} {t u : Tree} (found : t.find? uid = some u) (buffer : Nat)
    (line : LogLine) :
    Logged buffer uid line t (t.modify uid (Store.prependLog buffer line)) := by
  refine ⟨eraseLogs_modify_prependLog uid buffer line t, ?_⟩
  obtain ⟨before, after, first, eq, changed⟩ := exists_first_context found
  have own := find?_uid found
  have there := changed (Store.prependLog buffer line)
  cases u with
  | node r cs =>
    refine ⟨before, r, resourcesList cs ++ after, ?_, own, first, ?_⟩
    · rw [eq, resources_node, List.append_assoc, List.cons_append]
    · rw [there, Store.prependLog, resources_node, List.append_assoc, List.cons_append]

end Tree

/-- What a delta does to the log lines of a tree: an addition is merged or comes in with fresh uids, an
update is merged, and a removal takes a tree away; and any of them may be refused. -/
def Delta.LogEffect (t t' : Tree) : Delta → Prop
  | .add new => t.LogsStay t' ∨ Tree.Joins new t t'
  | .update _ => t.LogsStay t'
  | .remove _ _ => t.LogsStay t' ∨ ∃ gone, Tree.Leaves gone t t'

/-- What an operation does to the log lines of a tree. -/
def Store.Operation.LogEffect (buffer : Nat) (t t' : Tree) : Store.Operation → Prop
  | .replaceTree new => t' = new
  | .delta d => d.LogEffect t t'
  | .appendLog uid line => Tree.Logged buffer uid line t t' ∨ uid ∉ t.uids ∧ t' = t
  | .setFlags .. | .select _ | .clearSelection | .derivedViews => t.LogsStay t'

namespace Store

open ResourceTree.Tree (LogsStay)

variable {s : Store}

/-- A merge into a child leaves every log line where it is. -/
theorem logsStay_mergeChild (s : Store) (p : Tree) (incoming : Resource) :
    s.tree.LogsStay (s.changeChildren p (mergeChild incoming)).tree :=
  .same (Tree.ledger_onChildren (Tree.ledger_mergeChild incoming) p.uid s.tree)

/-- An attached tree comes in beside log lines that stay. -/
theorem joins_attach {parentId : Option String} {p t : Tree} (parent : s.parentOf parentId = .ok p)
    (attaches : s.Attaches t) : Tree.Joins t s.tree (s.changeChildren p (· ++ [t])).tree := by
  obtain ⟨before, after, eq, changed⟩ := changeChildren_resources parent
  refine ⟨attaches.2, before ++ p.resource :: Tree.resourcesList p.children, after, eq, ?_⟩
  rw [changed, Tree.resourcesList_append, Tree.resourcesList_cons, Tree.resourcesList_nil,
    List.append_nil]
  simp only [List.append_assoc, List.cons_append]

/-- A detached tree takes its log lines with it, and no others. -/
theorem leaves_detach {parentId : Option String} {p c : Tree} (parent : s.parentOf parentId = .ok p)
    {q : Tree → Bool} (found : p.children.find? q = some c) :
    Tree.Leaves c s.tree (s.changeChildren p (·.eraseP q)).tree := by
  obtain ⟨before, after, eq, changed⟩ := changeChildren_resources parent
  obtain ⟨left, right, siblings, erased⟩ := eraseP_of_found found
  refine ⟨before ++ p.resource :: Tree.resourcesList left, Tree.resourcesList right ++ after, ?_, ?_⟩
  · rw [eq, siblings, Tree.resourcesList_append, Tree.resourcesList_cons]
    simp only [List.append_assoc, List.cons_append]
  · rw [changed, erased, Tree.resourcesList_append]
    simp only [List.append_assoc, List.cons_append]

/-- A delta does to the log lines what its operation does, applied or not. -/
theorem apply_logs (s : Store) (d : Delta) : d.LogEffect s.tree (s.apply d).1.tree := by
  cases d with
  | add t =>
    rw [apply]
    rcases s.add_cases t with ⟨-, m, -, eq⟩ | ⟨-, p, -, -, eq⟩ | ⟨attaches, p, parent, eq⟩
    · rw [eq]
      exact .inl (.refl _)
    · rw [eq]
      exact .inl (s.logsStay_mergeChild p t.resource)
    · rw [eq]
      exact .inr (joins_attach parent attaches)
  | update t =>
    rw [apply]
    rcases s.update_cases t with ⟨-, m, -, eq⟩ | ⟨-, p, -, -, eq⟩ | ⟨-, eq⟩
    · rw [eq]
      exact .refl _
    · rw [eq]
      exact s.logsStay_mergeChild p t.resource
    · rw [eq]
      exact Tree.logsStay_mergeRoot t.resource s.tree
  | remove uid parentId =>
    rw [apply]
    rcases s.remove_cases uid parentId with ⟨m, -, eq⟩ | ⟨p, parent, child, eq⟩
    · rw [eq]
      exact .inl (.refl _)
    · obtain ⟨c, found⟩ := exists_child child
      rw [eq, dropStaleSelection_tree]
      exact .inr ⟨c, leaves_detach parent found⟩

/-- A line that is taken is put in front at the first node of its uid, and nothing else is done. -/
theorem appendLog?_logs {s' : Store} {uid : String} {line : LogLine}
    (appended : s.appendLog? uid line = some s') :
    s' = { s with tree := s'.tree } ∧ Tree.Logged s.logBuffer uid line s.tree s'.tree := by
  rw [appendLog?] at appended
  split at appended
  · next there =>
    obtain ⟨u, found⟩ := Option.isSome_iff_exists.1 there
    cases appended
    exact ⟨rfl, Tree.logged_modify found s.logBuffer line⟩
  · cases appended

/-- So does every other operation. -/
theorem perform_logs (s : Store) (o : Operation) :
    o.LogEffect s.logBuffer s.tree (s.perform o).tree := by
  cases o with
  | replaceTree t => exact dropStaleSelection_tree _
  | delta d => exact s.apply_logs d
  | setFlags uid reconciling suspended =>
    rw [perform]
    cases own : s.tree.flux? uid with
    | none =>
      rw [setFlags_of_flux?_eq_none own]
      exact LogsStay.refl _
    | some previous =>
      rw [setFlags_of_flux? own]
      exact LogsStay.same (Tree.ledger_modify_putFlux uid _ s.tree)
  | appendLog uid line =>
    rw [perform]
    cases appended : s.appendLog? uid line with
    | some s' => exact .inl (appendLog?_logs appended).2
    | none =>
      refine .inr ⟨fun there => ?_, rfl⟩
      rw [appendLog?, if_pos (Tree.contains_iff.2 there)] at appended
      cases appended
  | select uid =>
    rw [perform, select?]
    cases s.tree.resolve? uid with
    | none => exact LogsStay.refl _
    | some t => exact LogsStay.refl _
  | clearSelection => exact LogsStay.refl _
  | derivedViews =>
    rw [perform, derivedViews]
    split
    · exact LogsStay.refl _
    · exact LogsStay.refl _

end Store

end ResourceTree
