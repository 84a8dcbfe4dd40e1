import ResourceTree.Text.Blank

/-!
# Texts with lines left out

A text is the sequence of its lines, each with the break that ends it; only the last may have none.
Leaving some of them out gives a text whose lines are the others.
-/

namespace ResourceTree.Text
set_option autoImplicit false

/-- The entries of a list at the places that are kept. -/
def keepAt {α : Type} (kept : Nat → Bool) : List α → List α
  | [] => []
  | x :: rest =>
    if kept 0 then x :: keepAt (fun i => kept (i + 1)) rest
    else keepAt (fun i => kept (i + 1)) rest

theorem map_keepAt {α β : Type} (f : α → β) (kept : Nat → Bool) (xs : List α) :
    (keepAt kept xs).map f = keepAt kept (xs.map f) := by
  induction xs generalizing kept with
  | nil => rfl
  | cons x xs ih =>
    simp only [keepAt, List.map_cons]
    split
    · rw [List.map_cons, ih]
    · exact ih _

theorem keepAt_sublist {α : Type} (kept : Nat → Bool) (xs : List α) :
    (keepAt kept xs).Sublist xs := by
  induction xs generalizing kept with
  | nil => exact .slnil
  | cons x xs ih =>
    simp only [keepAt]
    split
    · exact (ih _).cons_cons x
    · exact (ih _).cons x

/-- The lines of a text as they stand in it, each with the line break that ends it. -/
def pieces : List Char → List (List Char)
  | [] => []
  | c :: rest =>
    if c = '\n' then [c] :: pieces rest
    else match pieces rest with
      | [] => [[c]]
      | piece :: more => (c :: piece) :: more

/-- A text without the lines that are not kept. -/
def keepLines (kept : Nat → Bool) (text : String) : String :=
  String.ofList (keepAt kept (pieces text.toList)).flatten

/-- A line break stands at the end of a piece, and in an unfinished one nowhere. -/
structure IsPiece (piece : List Char) : Prop where
  ne_nil : piece ≠ []
  inner : '\n' ∉ piece.dropLast

def Finished (piece : List Char) : Prop := piece.getLast? = some '\n'

/-- The line that a piece is read as. -/
def lineOf (piece : List Char) : String :=
  String.ofList (if piece.getLast? = some '\n' then dropReturn piece.dropLast else piece)

/-- A finished piece ends with the first line break. -/
theorem pieces_finished {body : List Char} (h : '\n' ∉ body) (rest : List Char) :
    pieces (body ++ '\n' :: rest) = (body ++ ['\n']) :: pieces rest := by
  induction body with
  | nil => simp only [List.nil_append, pieces, if_true]
  | cons c body ih =>
    obtain ⟨other, inner⟩ := not_or.1 (mt List.mem_cons.2 h)
    rw [List.cons_append, pieces, if_neg (Ne.symm other), ih inner]
    rfl

theorem pieces_unfinished {tail : List Char} (ne : tail ≠ []) (h : '\n' ∉ tail) :
    pieces tail = [tail] := by
  induction tail with
  | nil => exact absurd rfl ne
  | cons c tail ih =>
    obtain ⟨other, inner⟩ := not_or.1 (mt List.mem_cons.2 h)
    rw [pieces, if_neg (Ne.symm other)]
    by_cases last : tail = []
    · rw [last]; rfl
    · rw [ih last inner]

/-- Finished pieces, with at most one unfinished piece behind them, are those of their text. -/
theorem pieces_flatten {ps : List (List Char)} (whole : ∀ p ∈ ps, IsPiece p)
    (ordered : ps.Pairwise fun p _ => Finished p) : pieces ps.flatten = ps := by
  induction ps with
  | nil => rfl
  | cons p ps ih =>
    obtain ⟨first, rest⟩ := List.pairwise_cons.1 ordered
    have piece := whole p List.mem_cons_self
    have inner := ih (fun q member => whole q (List.mem_cons_of_mem _ member)) rest
    by_cases finished : Finished p
    · have eq : p.dropLast ++ ['\n'] = p := by
        obtain ⟨body, rfl⟩ := List.getLast?_eq_some_iff.1 finished
        rw [List.dropLast_concat]
      calc pieces (p :: ps).flatten
        _ = pieces (p.dropLast ++ '\n' :: ps.flatten) := by
          rw [List.flatten_cons, ← List.singleton_append, ← List.append_assoc, eq]
        _ = p :: ps := by rw [pieces_finished piece.inner, eq, inner]
    · -- nothing stands behind an unfinished piece
      have alone : ps = [] := List.eq_nil_iff_forall_not_mem.2 fun q member =>
        finished (first q member)
      have unbroken : '\n' ∉ p := by
        intro member
        rw [← List.dropLast_concat_getLast piece.ne_nil, List.mem_append] at member
        rcases member with member | member
        · exact piece.inner member
        · refine finished ?_
          rw [Finished, List.getLast?_eq_some_getLast piece.ne_nil, ← List.mem_singleton.1 member]
      rw [alone, List.flatten_cons, List.flatten_nil, List.append_nil]
      exact pieces_unfinished piece.ne_nil unbroken

/-- The runs between line breaks and the pieces of a text differ in the breaks, and in an empty run
behind the last break. -/
theorem exists_runs (cs : List Char) :
    ∃ finished tail, splitOn (· = '\n') cs = finished ++ [tail] ∧
      pieces cs = finished.map (· ++ ['\n']) ++ (if tail = [] then [] else [tail]) ∧
      (∀ run ∈ finished, '\n' ∉ run) ∧ '\n' ∉ tail := by
  induction cs with
  | nil => exact ⟨[], [], rfl, rfl, by simp, by simp⟩
  | cons c cs ih =>
    obtain ⟨finished, tail, split, cut, inner, last⟩ := ih
    by_cases broken : c = '\n'
    · refine ⟨[] :: finished, tail, ?_, ?_, ?_, last⟩
      · simp only [splitOn, broken, decide_true, if_true, split, List.cons_append]
      · simp only [pieces, broken, if_true, cut, List.map_cons, List.nil_append, List.cons_append]
      · intro run member
        rcases List.mem_cons.1 member with rfl | member
        · simp
        · exact inner run member
    · have other : '\n' ≠ c := Ne.symm broken
      cases finished with
      | nil =>
        refine ⟨[], c :: tail, ?_, ?_, by simp, by simp [other, last]⟩
        · simp [splitOn, broken, split]
        · by_cases empty : tail = []
          · simp [pieces, broken, cut, empty]
          · simp [pieces, broken, cut, empty]
      | cons run more =>
        refine ⟨(c :: run) :: more, tail, ?_, ?_, ?_, last⟩
        · simp [splitOn, broken, split]
        · simp [pieces, broken, cut]
        · intro r member
          rcases List.mem_cons.1 member with rfl | member
          · simp [other, inner run List.mem_cons_self]
          · exact inner r (List.mem_cons_of_mem _ member)

theorem isPiece_of_mem_pieces {cs p : List Char} (h : p ∈ pieces cs) : IsPiece p := by
  obtain ⟨finished, tail, -, cut, inner, last⟩ := exists_runs cs
  rw [cut, List.mem_append] at h
  rcases h with h | h
  · obtain ⟨run, member, rfl⟩ := List.mem_map.1 h
    exact ⟨by simp, by simpa using inner run member⟩
  · by_cases empty : tail = []
    · simp [empty] at h
    · rw [if_neg empty, List.mem_singleton] at h
      subst h
      exact ⟨empty, fun member => last (List.dropLast_subset _ member)⟩

theorem pieces_ordered (cs : List Char) : (pieces cs).Pairwise fun p _ => Finished p := by
  obtain ⟨finished, tail, -, cut, -, -⟩ := exists_runs cs
  have broken : ∀ p ∈ finished.map (· ++ ['\n']), Finished p := by
    intro p member
    obtain ⟨run, -, rfl⟩ := List.mem_map.1 member
    simp [Finished]
  rw [cut, List.pairwise_append]
  refine ⟨List.pairwise_of_forall_mem_list fun p member _ _ => broken p member, ?_,
    fun p member _ _ => broken p member⟩
  split
  · exact .nil
  · exact List.pairwise_singleton _ _

/-- Runs in front of a line break are read as the pieces that they make with it. -/
theorem map_lineOf_finished (runs : List (List Char)) (n bound : Nat)
    (h : n + runs.length ≤ bound) :
    (runs.zipIdx n).map (fun (run, i) =>
      String.ofList (if i < bound then dropReturn run else run))
      = (runs.map (· ++ ['\n'])).map lineOf := by
  induction runs generalizing n with
  | nil => rfl
  | cons run more ih =>
    rw [List.length_cons] at h
    have here : n < bound := by omega
    have there := ih (n + 1) (by omega)
    simp only [List.zipIdx_cons, List.map_cons, there, here, if_true]
    simp [lineOf]

/-- The lines of a text are what its pieces are read as. -/
theorem lines_eq_map (s : String) : lines s = (pieces s.toList).map lineOf := by
  obtain ⟨finished, tail, split, cut, -, last⟩ := exists_runs s.toList
  have unfinished : tail.getLast? ≠ some '\n' := fun eq => last (List.mem_of_getLast? eq)
  have ended := map_lineOf_finished finished 0 finished.length (by omega)
  simp only [lines, split, cut, List.getLast?_concat, List.dropLast_concat, List.map_append]
  by_cases empty : tail = []
  · simp only [empty, if_true, List.map_nil, List.append_nil, ← ended]
  · rw [if_neg (by simpa using empty), if_neg empty, List.zipIdx_append, List.map_append, ← ended]
    simp [lineOf, unfinished]

/-- The lines that are kept are the lines of the text without the others. -/
theorem lines_keepLines (kept : Nat → Bool) (text : String) :
    lines (keepLines kept text) = keepAt kept (lines text) := by
  have sub := keepAt_sublist kept (pieces text.toList)
  have again : pieces (keepAt kept (pieces text.toList)).flatten = keepAt kept (pieces text.toList) :=
    pieces_flatten (fun p member => isPiece_of_mem_pieces (sub.subset member))
      ((pieces_ordered text.toList).sublist sub)
  rw [lines_eq_map, lines_eq_map, ← map_keepAt, keepLines, String.toList_ofList, again]

/-- Line breaks inside what is to be one line make lines of their own. -/
theorem length_pieces_line (body rest : List Char) :
    (pieces (body ++ '\n' :: rest)).length = body.count '\n' + 1 + (pieces rest).length := by
  induction body with
  | nil => simp [pieces, Nat.add_comm]
  | cons c body ih =>
    by_cases broken : c = '\n'
    · subst broken
      rw [List.cons_append, pieces, if_pos rfl, List.length_cons, ih, List.count_cons_self]
      omega
    · rw [List.cons_append, pieces, if_neg broken, List.count_cons_of_ne broken, ← ih]
      cases cut : pieces (body ++ '\n' :: rest) with
      | nil =>
        rw [cut] at ih
        simp at ih
        omega
      | cons piece more => rfl

end ResourceTree.Text
