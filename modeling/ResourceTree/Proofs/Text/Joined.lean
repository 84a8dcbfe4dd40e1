import ResourceTree.Text.Blank

/-!
# Joined texts

Texts that are joined at a character can be taken apart again if it is known which of its occurrences is
the joint: there is no other one in the parts, or none behind it.
-/

namespace ResourceTree.Text
set_option autoImplicit false

/-- Two texts that are joined at the same character are the same on both sides of it, or differ by a
part that stands before it in the one and behind it in the other. -/
theorem append_cons_inj_iff {c : Char} {a b a' b' : List Char} :
    a ++ c :: b = a' ++ c :: b' ↔
      a = a' ∧ b = b' ∨
        (∃ m, a' = a ++ c :: m ∧ b = m ++ c :: b') ∨ ∃ m, a = a' ++ c :: m ∧ b' = m ++ c :: b := by
  constructor
  · intro same
    rcases List.append_eq_append_iff.1 same with ⟨m, longer, rest⟩ | ⟨m, longer, rest⟩
    · cases m with
      | nil => exact .inl ⟨by simpa using longer.symm, (List.cons.inj rest).2⟩
      | cons c' m =>
        obtain ⟨rfl, tail⟩ := List.cons.inj rest
        exact .inr (.inl ⟨m, longer, tail⟩)
    · cases m with
      | nil => exact .inl ⟨by simpa using longer, (List.cons.inj rest).2.symm⟩
      | cons c' m =>
        obtain ⟨rfl, tail⟩ := List.cons.inj rest
        exact .inr (.inr ⟨m, longer, tail⟩)
  · rintro (⟨rfl, rfl⟩ | ⟨m, rfl, rfl⟩ | ⟨m, rfl, rfl⟩)
    · rfl
    · rw [List.append_assoc, List.cons_append]
    · rw [List.append_assoc, List.cons_append]

/-- Texts that are joined at the last occurrence of a character are the same on both sides of it. -/
theorem append_cons_inj_of_last {c : Char} {a b a' b' : List Char} (last : c ∉ b) (last' : c ∉ b')
    (same : a ++ c :: b = a' ++ c :: b') : a = a' ∧ b = b' := by
  rcases append_cons_inj_iff.1 same with parts | ⟨m, -, rfl⟩ | ⟨m, -, rfl⟩
  · exact parts
  · exact absurd (List.mem_append_right m List.mem_cons_self) last
  · exact absurd (List.mem_append_right m List.mem_cons_self) last'

/-! ## The parts between separators -/

theorem splitOn_eq (c : Char) (cs : List Char) : splitOn (· = c) cs = cs.splitOn c := by
  induction cs with
  | nil => rfl
  | cons d cs ih =>
    obtain ⟨run, runs, eq⟩ := List.exists_cons_of_ne_nil (List.splitOn_ne_nil c cs)
    rw [List.splitOn_eq_splitOnP, List.splitOnP_cons_eq_if_modifyHead, ← List.splitOn_eq_splitOnP,
      splitOn, ih, eq]
    by_cases same : d = c
    · simp [same]
    · simp [same]

/-- Parts without the separator are found again in the text that they make. -/
theorem splitOn_intercalate {c : Char} {parts : List String} (ne : parts ≠ [])
    (free : ∀ p ∈ parts, c ∉ p.toList) :
    splitOn (· = c) ((String.singleton c).intercalate parts).toList = parts.map String.toList := by
  rw [splitOn_eq, String.toList_intercalate, String.toList_singleton]
  exact List.splitOn_intercalate c (by simpa using free) (by simpa using ne)

/-- Texts that are joined by a character that none of them holds can be told apart. -/
theorem intercalate_inj {c : Char} {parts parts' : List String} (ne : parts ≠ [])
    (ne' : parts' ≠ []) (free : ∀ p ∈ parts, c ∉ p.toList) (free' : ∀ p ∈ parts', c ∉ p.toList)
    (same : (String.singleton c).intercalate parts = (String.singleton c).intercalate parts') :
    parts = parts' := by
  have chars := splitOn_intercalate ne free
  rw [same, splitOn_intercalate ne' free'] at chars
  exact (List.map_inj_right fun _ _ => String.toList_inj.1).1 chars.symm

theorem not_mem_of_mem_splitOn {c : Char} {cs run : List Char} (member : run ∈ splitOn (· = c) cs) :
    c ∉ run := by
  induction cs generalizing run with
  | nil => simp_all [splitOn]
  | cons d cs ih =>
    rw [splitOn] at member
    split at member
    · rcases List.mem_cons.1 member with rfl | member
      · exact List.not_mem_nil
      · exact ih member
    · next other =>
      have different : c ≠ d := fun same => other (decide_eq_true same.symm)
      split at member
      · simpa [List.mem_singleton.1 member] using different
      · next first runs eq =>
        rcases List.mem_cons.1 member with rfl | member
        · rw [List.mem_cons, not_or]
          exact ⟨different, ih (eq ▸ List.mem_cons_self)⟩
        · exact ih (eq ▸ List.mem_cons_of_mem _ member)

end ResourceTree.Text
