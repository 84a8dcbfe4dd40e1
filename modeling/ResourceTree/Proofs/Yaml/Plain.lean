import ResourceTree.Proofs.Yaml.Gaps

/-!
# Plain scalars

A text that may be plain is read back up to the end of its line, or up to the colon behind it. It holds
nothing that marks structure: no colon in front of a gap, and no number sign behind one.
-/

namespace ResourceTree.Yaml
set_option autoImplicit false

open Printer (isPrintable isSpace movedIn hasStructure marksStructure fitsPlain)

variable {c : Cursor} {tail : List Char}

section

variable {s rest done : List Char} {ch : Char} {gap : Gap} {previous : Option Char}
  {indent : Int} {steps n : Nat}

/-- A character that ends neither the scalar nor its line. -/
theorem plain_solid (eq : c.rest = ch :: rest) (solid : IsSolid ch)
    (noEnd : ch = ':' → ∃ after ∈ rest.head?, IsSolid after) :
    Content.plain false indent (steps + 1) done gap c =
      Content.plain false indent steps (ch :: (gap.fold.reverse ++ done)) {} c.skip := by
  have stays : Content.endsPlain false c = false := by
    rw [Content.endsPlain, Bool.false_and, Bool.or_false, Bool.and_eq_false_imp]
    intro colon
    obtain ⟨after, next, solid⟩ := noEnd (by simpa [Cursor.sees, eq] using colon)
    rw [List.head?_eq_getElem?] at next
    simp [Cursor.seesGap, eq, Option.mem_def.1 next, solid.1, solid.2]
  rw [Content.plain]
  simp [Cursor.seesBlank, Cursor.seesBreak, eq, solid.1, solid.2, stays, Content.badFlowColon]

/-- Spaces inside a plain scalar are kept until it is clear that it goes on. -/
theorem plain_spaces (eq : c.rest = List.replicate (n + 1) ' ' ++ ch :: rest) (solid : IsSolid ch)
    (noComment : ch ≠ '#') (inside : indent ≤ c.column) :
    Content.plain false indent (steps + 1) done gap c =
      Content.plain false indent steps done { blanks := List.replicate (n + 1) ' ' }
        (c.skip (n + 1)) := by
  have atGap : (c.seesBlank || c.seesBreak) = true := by
    simp [Cursor.seesBlank, eq, List.replicate_succ, isBlank]
  have taken : Gap.take (fun column => indent ≤ column) c.rest.length {} c =
      .ok ({ blanks := List.replicate (n + 1) ' ' }, c.skip (n + 1)) :=
    Gap.take_spaces eq (by rintro _ ⟨⟩; exact solid) (by simp [eq]) rfl
  have noMark (mark : Char) : (c.skip (n + 1)).seesDocumentMark mark = false :=
    not_seesDocumentMark mark (by simp only [Cursor.skip]; omega)
  have noHash : (c.skip (n + 1)).sees '#' = false := by
    rw [Cursor.sees, rest_skip, eq, List.drop_left' List.length_replicate]
    simpa using noComment
  have further : (!false && decide (((c.skip (n + 1)).column : Int) < indent)) = false := by
    rw [Bool.not_false, Bool.true_and, decide_eq_false_iff_not]
    simp only [Cursor.skip]
    omega
  rw [Content.plain]
  simp only [atGap, if_true, taken, bind, Except.bind]
  rw [further, if_neg Bool.false_ne_true, if_neg (by simp [noMark, noHash])]

/-- The end of the line, with what is less moved in than the scalar on the next one. -/
theorem plain_end (steps : Nat) (done : List Char) (eq : c.rest = '\n' :: (List.replicate n ' ' ++ tail))
    (follows : Follows n tail) (less : n < indent) :
    ∃ c', Content.plain false indent (steps + 1) done {} c = .ok (done.reverse, true, c') ∧
      c'.rest = tail ∧ c'.column = n := by
  have atGap : (c.seesBlank || c.seesBreak) = true := by
    simp [Cursor.seesBlank, Cursor.seesBreak, eq, isBreak]
  have stands : AllBreaks ['\n'] := by simp [AllBreaks, isBreak, isPrintable]
  have enough : ([] : List Char).length + n < c.rest.length := by
    rw [eq, List.length_cons, List.length_append, List.length_replicate, List.length_nil]
    omega
  obtain ⟨c', taken, ends, column, -⟩ := Gap.take_breaks (fun column => indent ≤ column) c.rest.length stands
    (by simpa using eq) follows.startsSolid enough
  have back : (!false && decide ((c'.column : Int) < indent)) = true := by
    rw [Bool.not_false, Bool.true_and, decide_eq_true_eq]
    omega
  refine ⟨c', ?_, ends, column⟩
  rw [Content.plain]
  simp only [atGap, if_true, taken, bind, Except.bind]
  rw [back, if_pos rfl]
  rfl

/-- The colon after a key. -/
theorem plain_colon (eq : c.rest = ':' :: rest)
    (gap : ∀ after ∈ rest.head?, (isBlank after || isBreak after) = true) :
    Content.plain false indent (steps + 1) done {} c = .ok (done.reverse, false, c) := by
  have ends : Content.endsPlain false c = true := by
    cases rest with
    | nil => simp [Content.endsPlain, Cursor.sees, Cursor.seesGap, eq]
    | cons after rest =>
      simpa [Content.endsPlain, Cursor.sees, Cursor.seesGap, eq] using gap after rfl
  rw [Content.plain]
  simp [Cursor.seesBlank, Cursor.seesBreak, eq, isBlank, isBreak, ends, Content.badFlowColon]

/-- What stands in a plain scalar from some character on. -/
structure PlainPart (previous : Option Char) (s : List Char) : Prop where
  printable : ∀ ch ∈ s, isPrintable ch = true
  line : ∀ ch ∈ s, isBreak ch = false
  noStructure : hasStructure previous s = false
  noTrailing : ∀ ch ∈ s.getLast?, isSpace ch = false

namespace PlainPart

theorem behind (part : PlainPart previous (ch :: s)) : PlainPart (some ch) s where
  printable := fun d member => part.printable d (List.mem_cons_of_mem _ member)
  line := fun d member => part.line d (List.mem_cons_of_mem _ member)
  noStructure := by
    have none := part.noStructure
    rw [hasStructure, Bool.or_eq_false_iff] at none
    exact none.2
  noTrailing := fun d last => part.noTrailing d (by
    cases s with
    | nil => exact nomatch last
    | cons e s => simpa using last)

/-- What comes after the spaces of a plain scalar is part of it too. -/
theorem spaces (part : PlainPart previous (List.replicate (n + 1) ' ' ++ s)) :
    PlainPart (some ' ') s := by
  induction n generalizing previous with
  | zero => exact part.behind
  | succ n ih =>
    rw [List.replicate_succ, List.cons_append] at part
    exact ih part.behind

theorem solid (part : PlainPart previous (ch :: s)) (noSpace : isSpace ch = false) : IsSolid ch :=
  ⟨(isBlank_of_isPrintable (part.printable ch List.mem_cons_self)).trans noSpace,
    part.line ch List.mem_cons_self⟩

/-- A colon has something solid behind it. -/
theorem colon (part : PlainPart previous (':' :: s)) : ∃ after ∈ s.head?, IsSolid after := by
  have none := part.noStructure
  rw [hasStructure, Bool.or_eq_false_iff] at none
  cases s with
  | nil => cases previous <;> simp [marksStructure] at none
  | cons after s =>
    refine ⟨after, rfl, ?_⟩
    cases previous with
    | none =>
      rw [IsSolid]
      simp [marksStructure] at none
      exact none.1.2
    | some _ => simpa [marksStructure, IsSolid] using none.1

/-- There is no comment behind a space. -/
theorem comment (part : PlainPart (some ' ') (ch :: s)) : ch ≠ '#' := by
  rintro rfl
  have none := part.noStructure
  simp [hasStructure, marksStructure, isBlank] at none

end PlainPart

/-- A plain scalar is read up to its end, whatever comes then. -/
theorem plain_part (gap : Gap) (done : List Char) (part : PlainPart previous s) (eq : c.rest = s ++ rest)
    (inside : ' ' ∈ s → indent ≤ c.column) (begins : gap = {} ∨ ∃ ch ∈ s.head?, isSpace ch = false) :
    ∃ k ≤ s.length, ∀ steps, Content.plain false indent (steps + k) done gap c =
      Content.plain false indent steps (s.reverse ++ (gap.fold.reverse ++ done)) {}
        (c.skip s.length) := by
  induction s using runs_induction isSpace generalizing previous c done gap with
  | nil =>
    obtain rfl : gap = {} := begins.resolve_right (by simp)
    exact ⟨0, Nat.le_refl 0, fun steps => rfl⟩
  | other ch s noSpace ih =>
    obtain ⟨k, le, reads⟩ := @ih c.skip (some ch) {} (ch :: (gap.fold.reverse ++ done))
      part.behind (by simp [rest_skip, eq])
      (fun member => Int.le_trans (inside (List.mem_cons_of_mem ch member))
        (by simp only [Cursor.skip]; omega))
      (Or.inl rfl)
    refine ⟨k + 1, by simpa using le, fun steps => ?_⟩
    have noEnd : ch = ':' → ∃ after ∈ (s ++ rest).head?, IsSolid after := by
      rintro rfl
      obtain ⟨after, next, solid⟩ := part.colon
      cases s with
      | nil => cases next
      | cons d s => exact ⟨after, next, solid⟩
    rw [← Nat.add_assoc, plain_solid eq (part.solid noSpace) noEnd, reads, skip_skip]
    simp [Gap.fold, Nat.add_comm]
  | run r s some spaces stop ih =>
    obtain ⟨n, length⟩ := Nat.exists_eq_succ_of_ne_zero (List.length_pos_iff.2 some).ne'
    have eqSpaces := eq_replicate_of_isSpace spaces
    rw [length] at eqSpaces
    obtain rfl : gap = {} := by
      refine begins.resolve_right ?_
      rintro ⟨ch, first, noSpace⟩
      rw [eqSpaces, List.replicate_succ, List.cons_append] at first
      obtain rfl : ' ' = ch := by simpa using first
      exact absurd noSpace (by decide)
    have far := inside (by rw [eqSpaces]; simp)
    rw [eqSpaces] at part eq ⊢
    cases s with
    | nil =>
      have last := part.noTrailing ' ' (by simp [List.getLast?_replicate])
      exact absurd last (by decide)
    | cons ch s =>
      have part' := part.spaces
      obtain ⟨k, le, reads⟩ := @ih (c.skip (n + 1)) (.some ' ') { blanks := List.replicate (n + 1) ' ' } done part'
        (by rw [rest_skip, eq, List.append_assoc, List.drop_left' List.length_replicate])
        (fun _ => by simp only [Cursor.skip]; omega) (Or.inr ⟨ch, rfl, stop ch rfl⟩)
      refine ⟨k + 1, by simp at le ⊢; omega, fun steps => ?_⟩
      rw [List.append_assoc, List.cons_append] at eq
      rw [← Nat.add_assoc, plain_spaces eq (part'.solid (stop ch rfl)) part'.comment far, reads,
        skip_skip]
      simp [Gap.fold]

/-- A plain scalar and the end of its line. -/
theorem plain_line (part : PlainPart none s) (begins : ∃ ch ∈ s.head?, isSpace ch = false)
    (eq : c.rest = s ++ '\n' :: (List.replicate n ' ' ++ tail)) (follows : Follows n tail)
    (inside : indent ≤ c.column) (less : n < indent) (enough : s.length < steps) :
    ∃ c', Content.plain false indent steps [] {} c = .ok (s, true, c') ∧ c'.rest = tail ∧
      c'.column = n := by
  obtain ⟨k, le, reads⟩ := plain_part {} [] part eq (fun _ => inside) (Or.inr begins)
  have eq' : (c.skip s.length).rest = '\n' :: (List.replicate n ' ' ++ tail) := by rw [rest_skip, eq, List.drop_left]
  obtain ⟨c', ends, place⟩ := plain_end (steps - k - 1) s.reverse eq' follows less
  refine ⟨c', ?_, place⟩
  have split : steps = steps - k - 1 + 1 + k := by omega
  rw [split, reads, Gap.fold, List.reverse_nil, List.nil_append, List.append_nil, ends,
    List.reverse_reverse]

/-- A plain scalar in front of a colon. -/
theorem plain_key (part : PlainPart none s) (begins : ∃ ch ∈ s.head?, isSpace ch = false)
    (eq : c.rest = s ++ ':' :: rest)
    (gap : ∀ after ∈ rest.head?, (isBlank after || isBreak after) = true) (inside : ' ' ∈ s → indent ≤ c.column)
    (enough : s.length < steps) :
    Content.plain false indent steps [] {} c = .ok (s, false, c.skip s.length) := by
  obtain ⟨k, le, reads⟩ := plain_part {} [] part eq inside (Or.inr begins)
  have split : steps = steps - k - 1 + 1 + k := by omega
  rw [split, reads, plain_colon (by rw [rest_skip, eq, List.drop_left]) gap]
  simp [Gap.fold]

end

/-! ## What may be plain -/

section

variable {s : List Char} {ch : Char}

theorem PlainPart.of_fits (fits : fitsPlain s = true) : PlainPart none s := by
  simp only [fitsPlain, Printer.unescaped, Bool.and_eq_true, List.all_eq_true, Bool.not_eq_true',
    List.any_eq_false, Option.all_eq_true] at fits
  obtain ⟨⟨⟨⟨⟨⟨⟨printable, -⟩, line⟩, -⟩, last⟩, noStructure⟩, -⟩, -⟩ := fits
  exact ⟨printable, fun ch member => by simpa using line ch member, noStructure,
    fun ch member => last ch member⟩

/-- The characters of names and numbers. -/
def isWordChar (ch : Char) : Bool := ch.isAlphanum || ch = '.' || ch = '-' || ch = '+'

theorem ne_of_isWordChar {d : Char} (word : isWordChar ch = true) (other : isWordChar d = false) :
    ch ≠ d := by
  rintro rfl
  rw [word] at other
  exact nomatch other

theorem isPrintable_of_isWordChar (word : isWordChar ch = true) : isPrintable ch = true := by
  have bounds : 0x20 ≤ ch.toNat ∧ ch.toNat ≤ 0x7E := by
    rw [isWordChar] at word
    delta Char.isAlphanum Char.isAlpha Char.isUpper Char.isLower Char.isDigit at word
    simp only [Bool.or_eq_true, Bool.and_eq_true, decide_eq_true_eq, UInt32.le_iff_toNat_le] at word
    rcases word with ((((word | word) | word) | rfl) | rfl) | rfl
    case inr | inl.inr | inl.inl.inr => decide
    all_goals
      have same : ch.val.toNat = ch.toNat := rfl
      simp at word
      omega
  simp [isPrintable, bounds]

theorem isBreak_of_isWordChar (word : isWordChar ch = true) : isBreak ch = false := by
  simp [isBreak, ne_of_isWordChar word (d := '\n') (by decide),
    ne_of_isWordChar word (d := '\r') (by decide), ne_of_isWordChar word (d := '\u0085') (by decide),
    ne_of_isWordChar word (d := '\u2028') (by decide), ne_of_isWordChar word (d := '\u2029') (by decide)]

theorem isSpace_of_isWordChar (word : isWordChar ch = true) : isSpace ch = false := by
  simp [isSpace, ne_of_isWordChar word (d := ' ') (by decide)]

/-- A word that is printed as it is, such as a name or a number. -/
structure IsWord (s : List Char) : Prop where
  chars : ∀ ch ∈ s, isWordChar ch = true
  some : s ≠ []
  noDash : s ≠ ['-']

theorem hasStructure_of_isWordChar (chars : ∀ ch ∈ s, isWordChar ch = true) (previous : Char) :
    hasStructure (some previous) s = false := by
  induction s generalizing previous with
  | nil => rfl
  | cons ch s ih =>
    have word := chars ch List.mem_cons_self
    rw [hasStructure, ih fun d member => chars d (List.mem_cons_of_mem _ member)]
    simp [marksStructure, ne_of_isWordChar word (d := ':') (by decide),
      ne_of_isWordChar word (d := '#') (by decide)]

namespace IsWord

theorem begins (word : IsWord s) : ∃ ch ∈ s.head?, isSpace ch = false := by
  obtain ⟨ch, more, rfl⟩ := List.exists_cons_of_ne_nil word.some
  exact ⟨ch, rfl, isSpace_of_isWordChar (word.chars ch List.mem_cons_self)⟩

theorem plainPart (word : IsWord s) : PlainPart none s where
  printable := fun ch member => isPrintable_of_isWordChar (word.chars ch member)
  line := fun ch member => isBreak_of_isWordChar (word.chars ch member)
  noTrailing := fun ch last => isSpace_of_isWordChar (word.chars ch (List.mem_of_getLast? last))
  noStructure := by
    obtain ⟨ch, more, rfl⟩ := List.exists_cons_of_ne_nil word.some
    have first := word.chars ch List.mem_cons_self
    have noIndicator : Printer.isIndicator ch = false := by
      rw [Printer.isIndicator, Bool.eq_false_iff]
      intro indicator
      have each : ",[]\x7b\x7d#&*!|>'\"%@`".toList.all (!isWordChar ·) = true := by decide
      have noWord := List.all_eq_true.1 each ch (List.contains_iff_mem.1 indicator)
      rw [first] at noWord
      exact nomatch noWord
    have noGap : ch = '-' → more.head?.all (fun n => isBlank n || isBreak n) = false := by
      rintro rfl
      obtain ⟨d, more, rfl⟩ := List.exists_cons_of_ne_nil fun empty : more = [] => word.noDash (by rw [empty])
      have second := word.chars d (List.mem_cons_of_mem _ List.mem_cons_self)
      have solid : isBlank d = false :=
        (isBlank_of_isPrintable (isPrintable_of_isWordChar second)).trans (isSpace_of_isWordChar second)
      simp [solid, isBreak_of_isWordChar second]
    rw [hasStructure, hasStructure_of_isWordChar fun d member => word.chars d (List.mem_cons_of_mem _ member)]
    simpa [marksStructure, noIndicator, ne_of_isWordChar first (d := '?') (by decide),
      ne_of_isWordChar first (d := ':') (by decide)] using noGap

end IsWord

end

end ResourceTree.Yaml
