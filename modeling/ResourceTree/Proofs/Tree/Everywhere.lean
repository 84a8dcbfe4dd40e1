import ResourceTree.Proofs.Tree.Flags
import ResourceTree.Proofs.Tree.Steps

/-!
# What holds of every resource

A store does few things to a single resource: it lets it take an update, gives it a uid or takes its
parent away, sets its flags and puts log lines in front of its own. A property that none of these takes
away is `Stable`, and once it holds of all resources of a tree and of what deltas bring, it holds of all
resources from then on.
-/

namespace ResourceTree
set_option autoImplicit false

variable {buffer : Nat} {P : Resource → Prop}

/-- A property of a resource that nothing takes away that a store with a log buffer does to it. -/
structure Resource.Stable (buffer : Nat) (P : Resource → Prop) : Prop where
  merge : ∀ {r incoming : Resource}, P r → P incoming → P (r.merge incoming)
  named : ∀ {r : Resource} (uid : String), P r → P { r with uid }
  unparented : ∀ {r : Resource}, P r → P { r with parentId := none }
  withFlux : ∀ {r : Resource} (flux : Flux), P r → P (r.withFlux flux)
  prependLog : ∀ {r : Resource} (line : LogLine), P r → P (r.prependLog buffer line)

namespace Tree

/-- A property holds of every resource of a tree. -/
def Everywhere (P : Resource → Prop) (t : Tree) : Prop := ∀ r ∈ t.resources, P r

theorem forall_resourcesList {ts : List Tree} :
    (∀ r ∈ resourcesList ts, P r) ↔ ∀ t ∈ ts, t.Everywhere P := by
  induction ts with
  | nil => simp
  | cons t ts ih =>
    rw [resourcesList_cons, List.forall_mem_append, ih, List.forall_mem_cons]
    exact Iff.rfl

/-- All of a tree has the property if its root has it and each of its children all over. -/
theorem everywhere_node {r : Resource} {cs : List Tree} :
    (node r cs).Everywhere P ↔ P r ∧ ∀ c ∈ cs, c.Everywhere P := by
  rw [Everywhere, resources_node, List.forall_mem_cons, forall_resourcesList]

/-- So the root has it. -/
theorem Everywhere.resource {t : Tree} (all : t.Everywhere P) : P t.resource := by
  cases t with
  | node r cs => exact (everywhere_node.1 all).1

/-- A change that keeps a property in the node that it is made at keeps it in the whole tree. -/
theorem Everywhere.modify {t : Tree} (all : t.Everywhere P) {f : Tree → Tree}
    (keeps : ∀ u, u.Everywhere P → (f u).Everywhere P) (uid : String) :
    (t.modify uid f).Everywhere P := by
  cases found : t.find? uid with
  | none =>
    rw [modify_fixed fun u there => by cases found.symm.trans there]
    exact all
  | some p =>
    obtain ⟨before, after, eq, changed⟩ := exists_context found
    rw [Everywhere, eq, List.forall_mem_append, List.forall_mem_append] at all
    rw [Everywhere, changed, List.forall_mem_append, List.forall_mem_append]
    exact ⟨⟨all.1.1, keeps p all.1.2⟩, all.2⟩

/-- A change of the root that keeps the property keeps it all over. -/
theorem Everywhere.onResource {t : Tree} (all : t.Everywhere P) {f : Resource → Resource}
    (keeps : ∀ r, P r → P (f r)) : (onResource f t).Everywhere P := by
  cases t with
  | node r cs =>
    obtain ⟨here, below⟩ := everywhere_node.1 all
    exact everywhere_node.2 ⟨keeps r here, below⟩

end Tree

/-- A property holds of every resource that a delta brings. -/
def Delta.Brings (P : Resource → Prop) : Delta → Prop
  | .add t | .update t => t.Everywhere P
  | .remove _ _ => True

namespace Store

open ResourceTree.Tree (Everywhere)

/-- A property holds of every resource of a store with a log buffer. -/
structure Holds (buffer : Nat) (P : Resource → Prop) (s : Store) : Prop where
  buffer : s.logBuffer = buffer
  everywhere : s.tree.Everywhere P

variable {s : Store}

/-- A change of children that keeps the property keeps it all over the tree. -/
theorem changeChildren_everywhere (all : s.tree.Everywhere P) (p : Tree)
    {f : List Tree → List Tree}
    (keeps : ∀ ts : List Tree, (∀ t ∈ ts, t.Everywhere P) → ∀ t ∈ f ts, t.Everywhere P) :
    (s.changeChildren p f).tree.Everywhere P := by
  refine all.modify (fun u above => ?_) p.uid
  cases u with
  | node r cs =>
    obtain ⟨here, below⟩ := Tree.everywhere_node.1 above
    exact Tree.everywhere_node.2 ⟨here, keeps cs below⟩

/-- A merge into a child keeps the property, if what is merged has it. -/
theorem mergeChild_everywhere (stable : Resource.Stable buffer P) {incoming : Resource}
    (brought : P incoming) (ts : List Tree) (all : ∀ t ∈ ts, t.Everywhere P) :
    ∀ t ∈ mergeChild incoming ts, t.Everywhere P := by
  induction ts with
  | nil => exact all
  | cons t ts ih =>
    obtain ⟨first, rest⟩ := List.forall_mem_cons.1 all
    cases t with
    | node r cs =>
      rw [mergeChild]
      split
      · obtain ⟨here, below⟩ := Tree.everywhere_node.1 first
        exact List.forall_mem_cons.2
          ⟨Tree.everywhere_node.2 ⟨stable.merge here brought, below⟩, rest⟩
      · exact List.forall_mem_cons.2 ⟨first, ih rest⟩

/-- So does a merge into the root. -/
theorem mergeRoot_everywhere (stable : Resource.Stable buffer P) {incoming : Resource}
    (brought : P incoming) {t : Tree} (all : t.Everywhere P) :
    (mergeRoot incoming t).Everywhere P := by
  cases t with
  | node r cs =>
    obtain ⟨here, below⟩ := Tree.everywhere_node.1 all
    refine Tree.everywhere_node.2 ⟨stable.merge ?_ (stable.unparented brought), below⟩
    split
    · exact stable.named incoming.uid here
    · exact here

/-- What holds of all resources and of those that a delta brings holds of all resources after it. -/
theorem apply_everywhere (stable : Resource.Stable buffer P) (all : s.tree.Everywhere P) {d : Delta}
    (brings : d.Brings P) : (s.apply d).1.tree.Everywhere P := by
  cases d with
  | add t =>
    rw [apply]
    rcases s.add_cases t with ⟨-, m, -, eq⟩ | ⟨-, p, -, -, eq⟩ | ⟨-, p, -, eq⟩
    · rw [eq]
      exact all
    · rw [eq]
      exact changeChildren_everywhere all p (mergeChild_everywhere stable brings.resource)
    · rw [eq]
      refine changeChildren_everywhere all p fun ts below => ?_
      rw [List.forall_mem_append, List.forall_mem_singleton]
      exact ⟨below, brings⟩
  | update t =>
    rw [apply]
    rcases s.update_cases t with ⟨-, m, -, eq⟩ | ⟨-, p, -, -, eq⟩ | ⟨-, eq⟩
    · rw [eq]
      exact all
    · rw [eq]
      exact changeChildren_everywhere all p (mergeChild_everywhere stable brings.resource)
    · rw [eq]
      exact mergeRoot_everywhere stable brings.resource all
  | remove uid parentId =>
    rw [apply]
    rcases s.remove_cases uid parentId with ⟨m, -, eq⟩ | ⟨p, -, -, eq⟩
    · rw [eq]
      exact all
    · rw [eq, dropStaleSelection_tree]
      exact changeChildren_everywhere all p fun ts below t member =>
        below t (List.mem_of_mem_eraseP member)

/-- No delta changes how many log lines are kept. -/
theorem logBuffer_apply (s : Store) (d : Delta) : (s.apply d).1.logBuffer = s.logBuffer := by
  rcases s.apply_cases d with ⟨-, tree, selected, eq⟩ | ⟨-, eq⟩
  · rw [eq]
  · rw [eq]

/-- A delta that brings no record without the property keeps it. -/
theorem Holds.apply (stable : Resource.Stable buffer P) (holds : s.Holds buffer P) {d : Delta}
    (brings : d.Brings P) : (s.apply d).1.Holds buffer P :=
  ⟨(s.logBuffer_apply d).trans holds.buffer, apply_everywhere stable holds.everywhere brings⟩

/-- So does a snapshot that has it all over. -/
theorem Holds.replaceTree (holds : s.Holds buffer P) {t : Tree} (all : t.Everywhere P) :
    (s.replaceTree t).Holds buffer P := by
  obtain ⟨selected, eq⟩ := dropStaleSelection_eq (s.change t)
  rw [Store.replaceTree, eq]
  exact ⟨holds.buffer, all⟩

/-- What is done to a store in its place keeps a stable property in it. -/
theorem Holds.perform (stable : Resource.Stable buffer P) (holds : s.Holds buffer P) {o : Operation}
    (here : o.isLocal = true) : (s.perform o).Holds buffer P := by
  cases o with
  | replaceTree t => cases here
  | delta d => cases here
  | setFlags uid reconciling suspended =>
    rw [Store.perform]
    cases own : s.tree.flux? uid with
    | none =>
      rw [setFlags_of_flux?_eq_none own]
      exact holds
    | some previous =>
      rw [setFlags_of_flux? own]
      refine ⟨holds.buffer, holds.everywhere.modify (fun u all => ?_) uid⟩
      rw [Tree.putFlux_eq]
      exact all.onResource fun r => stable.withFlux _
  | appendLog uid line =>
    rw [Store.perform, appendLog?]
    split
    · refine ⟨holds.buffer, holds.everywhere.modify (fun u all => ?_) uid⟩
      rw [holds.buffer, Tree.prependLog_eq]
      exact all.onResource fun r => stable.prependLog line
    · exact holds
  | select uid =>
    rw [Store.perform, select?]
    cases s.tree.resolve? uid with
    | none => exact holds
    | some t => exact ⟨holds.buffer, holds.everywhere⟩
  | clearSelection => exact ⟨holds.buffer, holds.everywhere⟩
  | derivedViews =>
    rw [Store.perform, derivedViews]
    split
    · exact holds
    · exact ⟨holds.buffer, holds.everywhere⟩

end Store

end ResourceTree
