import ResourceTree.Proofs.Graph.Shown
import ResourceTree.Proofs.Text.Joined

/-!
# Names of edges

The name of an edge joins the uids of its ends by a hyphen. A uid may hold hyphens itself, so a name can
be taken apart in more than one way: part of the target may go over to the source. Two edges have one
name exactly if they differ by such a part, and `nodup_ids_iff` says which trees have a graph in which
no two edges do.
-/

namespace ResourceTree
set_option autoImplicit false

namespace Edge

/-- The target of an edge begins with what the source of another one ends in, so that both come to one
name. -/
def Clashes (e e' : Edge) : Prop :=
  ∃ m, e'.source = e.source ++ "-" ++ m ∧ e.target = m ++ "-" ++ e'.target

theorem toList_id (e : Edge) : e.id.toList = e.source.toList ++ '-' :: e.target.toList := by
  rw [id, String.toList_append, String.toList_append, List.append_assoc]
  rfl

/-- The same, character by character. -/
theorem clashes_iff {e e' : Edge} :
    e.Clashes e' ↔ ∃ m, e'.source.toList = e.source.toList ++ '-' :: m ∧
      e.target.toList = m ++ '-' :: e'.target.toList := by
  have joined : ∀ a b c : String, a = b ++ "-" ++ c ↔ a.toList = b.toList ++ '-' :: c.toList := by
    intro a b c
    rw [← String.toList_inj, String.toList_append, String.toList_append, List.append_assoc]
    rfl
  simp only [Clashes, joined]
  constructor
  · rintro ⟨m, source, target⟩
    exact ⟨m.toList, source, target⟩
  · rintro ⟨m, source, target⟩
    exact ⟨String.ofList m, by simpa using source, by simpa using target⟩

/-- An edge does not clash with itself. -/
theorem Clashes.ne {e e' : Edge} (clash : e.Clashes e') : e ≠ e' := by
  rintro rfl
  obtain ⟨m, source, -⟩ := clashes_iff.1 clash
  have longer := congrArg List.length source
  rw [List.length_append, List.length_cons] at longer
  omega

/-- Edges have one name if they are one edge or if one of them clashes with the other. -/
theorem id_eq_iff {e e' : Edge} : e.id = e'.id ↔ e = e' ∨ e.Clashes e' ∨ e'.Clashes e := by
  have ends : e = e' ↔
      e.source.toList = e'.source.toList ∧ e.target.toList = e'.target.toList := by
    rw [String.toList_inj, String.toList_inj]
    cases e
    cases e'
    exact mk.injEq .. ▸ Iff.rfl
  rw [← String.toList_inj, toList_id, toList_id, Text.append_cons_inj_iff, ends, clashes_iff,
    clashes_iff]

end Edge

/-- The names of different edges differ exactly if no two of the edges clash. -/
theorem Edge.nodup_map_id_iff {edges : List Edge} (distinct : edges.Nodup) :
    (edges.map Edge.id).Nodup ↔ ∀ e ∈ edges, ∀ e' ∈ edges, ¬ e.Clashes e' := by
  rw [List.nodup_map_iff_inj_on distinct]
  constructor
  · intro inj e member e' member' clash
    exact clash.ne (inj e member e' member' (id_eq_iff.2 (.inr (.inl clash))))
  · intro apart e member e' member' same
    rcases id_eq_iff.1 same with same | clash | clash
    · exact same
    · exact absurd clash (apart e member e' member')
    · exact absurd clash (apart e' member' e member)

namespace Projection

variable {start : Tree}

/-- The edges of a graph are those of its drawn links. -/
theorem forall_edges_iff (distinct : start.uids.Nodup) (excluded : List String) {P : Edge → Prop} :
    (∀ e ∈ (ofTree excluded start).edges, P e) ↔
      ∀ link ∈ start.links, Drawn excluded link →
        P { source := link.1.uid, target := link.2.uid } := by
  constructor
  · intro all link member drawn
    exact all _ ((mem_edges_iff distinct).2 ⟨link, member, drawn, rfl, rfl⟩)
  · intro all e member
    obtain ⟨link, there, drawn, source, target⟩ := (mem_edges_iff distinct).1 member
    have here := all link there drawn
    rwa [source, target] at here

theorem uid_mem_of_link {link : Occurrence × Occurrence} (member : link ∈ start.links) :
    link.1.uid ∈ start.uids := by
  rw [← Tree.map_uid_occurrences]
  exact List.mem_map_of_mem (Tree.mem_links.1 member).1

/-- Two pairs of a parent and a child come to one name if the second parent is the first one with a
hyphen and some text behind it, and the first child is that text with a hyphen and the second child
behind it. The names of the edges differ exactly if this holds of no two pairs that the graph shows, so
in particular if no uid goes on with a hyphen where another one ends. -/
theorem nodup_ids_iff (distinct : start.uids.Nodup) (excluded : List String) :
    (((ofTree excluded start).edges.map Edge.id).Nodup ↔
      ∀ link ∈ start.links, Drawn excluded link → ∀ link' ∈ start.links, Drawn excluded link' →
        ¬ ∃ m, link'.1.uid = link.1.uid ++ "-" ++ m ∧ link.2.uid = m ++ "-" ++ link'.2.uid) ∧
    ((∀ u ∈ start.uids, ∀ v ∈ start.uids, ∀ m, v ≠ u ++ "-" ++ m) →
      ((ofTree excluded start).edges.map Edge.id).Nodup) := by
  have edges : (ofTree excluded start).edges.Nodup :=
    List.Nodup.of_map _ (isForest_ofTree distinct).once
  have names : ((ofTree excluded start).edges.map Edge.id).Nodup ↔
      ∀ link ∈ start.links, Drawn excluded link → ∀ link' ∈ start.links, Drawn excluded link' →
        ¬ ∃ m, link'.1.uid = link.1.uid ++ "-" ++ m ∧ link.2.uid = m ++ "-" ++ link'.2.uid := by
    rw [Edge.nodup_map_id_iff edges, forall_edges_iff distinct]
    refine forall_congr' fun link => imp_congr_right fun _ => imp_congr_right fun _ => ?_
    rw [forall_edges_iff distinct]
    exact Iff.rfl
  refine ⟨names, fun apart => names.2 ?_⟩
  rintro link member - link' member' - ⟨m, longer, -⟩
  exact apart link.1.uid (uid_mem_of_link member) link'.1.uid (uid_mem_of_link member') m longer

/-- Uids of one length, with hyphens in them. -/
def numbered : Tree :=
  .node { Resource.placeholder with uid := "a-0", kind := "Kustomization" }
    [.node { Resource.placeholder with uid := "a-1", kind := "Deployment" }
        [.node { Resource.placeholder with uid := "a-2", kind := "Pod" } []],
      .node { Resource.placeholder with uid := "b-1", kind := "Deployment" }
        [.node { Resource.placeholder with uid := "b-2", kind := "Pod" } []]]

/-- Uids of one length with hyphens in them, so that no uid goes on where another one ends. -/
theorem nodup_ids_iff_numbered :
    numbered.uids.Nodup ∧
      (ofTree [] numbered).edges.map Edge.id = ["a-0-a-1", "a-0-b-1", "a-1-a-2", "b-1-b-2"] ∧
      ((ofTree [] numbered).edges.map Edge.id).Nodup := by
  have distinct : numbered.uids.Nodup := by decide
  have length : ∀ uid ∈ numbered.uids, uid.toList.length = 3 := by decide
  refine ⟨distinct, by decide +kernel, (nodup_ids_iff distinct []).2 fun u member v member' m same => ?_⟩
  have longer := congrArg (fun s => s.toList.length) same
  simp only [String.toList_append, List.length_append, length u member, length v member'] at longer
  have hyphen : "-".toList.length = 1 := rfl
  omega

/-- A child of the root whose uid begins with what another one adds to the uid of the root. -/
def hyphenated : Tree :=
  .node { Resource.placeholder with uid := "a", kind := "Kustomization" }
    [.node { Resource.placeholder with uid := "b-c", kind := "ConfigMap" } [],
      .node { Resource.placeholder with uid := "a-b", kind := "ConfigMap" }
        [.node { Resource.placeholder with uid := "c", kind := "ConfigMap" } []]]

/-- No uid is repeated, and yet two edges have one name. -/
theorem edges_of_one_name :
    hyphenated.uids.Nodup ∧ ¬ ((ofTree [] hyphenated).edges.map Edge.id).Nodup := by
  decide +kernel

end Projection

end ResourceTree
