import ResourceTree.Proofs.Yaml.Literal
import ResourceTree.Proofs.Yaml.Plain
import ResourceTree.Proofs.Yaml.Quoted
import ResourceTree.Proofs.Yaml.Scanning

/-!
# Tokens of scalars

A printed scalar is scanned as one token that has its text and the style in which it was printed. What
follows it is the first token of the next line.
-/

namespace ResourceTree.Yaml
set_option autoImplicit false

open Printer (isPrintable isSpace hasStructure marksStructure movedIn)

/-! ## Styles -/

/-- What the style of a text says about it. -/
inductive FitsStyle (cs : List Char) : Style → Prop where
  | plain (part : PlainPart none cs) (begins : ∃ ch ∈ cs.head?, isSpace ch = false) : FitsStyle cs .plain
  | singleQuoted (fits : Quotable cs) : FitsStyle cs .singleQuoted
  | doubleQuoted : FitsStyle cs .doubleQuoted
  | literal (ne : cs ≠ []) (printable : ∀ ch ∈ cs, isPrintable ch = true) : FitsStyle cs .literal

theorem fitsStyle (x : String) : FitsStyle x.toList (Printer.styleOf x) := by
  simp only [Printer.styleOf, List.contains_iff_mem]
  split
  · next feed =>
    split
    · next fits =>
      simp only [Printer.fitsBlock, Printer.unescaped, Bool.and_eq_true, List.all_eq_true] at fits
      exact .literal (List.ne_nil_of_mem feed) fits.1.1
    · exact .doubleQuoted
  · next noFeed =>
    split
    · next fits =>
      rw [Bool.and_eq_true, Bool.not_eq_true'] at fits
      obtain ⟨clear, fits⟩ := fits
      refine .plain (PlainPart.of_fits fits) ?_
      cases chars : x.toList with
      | nil =>
        obtain rfl : x = "" := String.toList_inj.1 chars
        exact absurd clear (by decide)
      | cons ch more =>
        simp only [Printer.fitsPlain, Bool.and_eq_true, chars] at fits
        exact ⟨ch, rfl, by simpa using fits.1.1.1.1.2⟩
    · split
      · next fits =>
        simp only [Printer.fitsSingle, Printer.unescaped, Bool.and_eq_true, List.all_eq_true,
          Bool.not_eq_true'] at fits
        exact .singleQuoted ⟨fits.1.1, noFeed, fits.1.2, fits.2⟩
      · exact .doubleQuoted

namespace Scan

variable {s r : Scan} {allowed : Bool} {text : List Char} {column : Nat} {b : Blocks}

/-! ## Dispatch -/

open Printer (isIndicator)

namespace At

variable {ch : Char} {rest : List Char}

theorem contains_indicators (ch : Char) :
    indicators.contains ch = (ch == '-' || (ch == '?' || (ch == ':' || isIndicator ch))) := by
  have eq : indicators = '-' :: '?' :: ':' :: ",[]\x7b\x7d#&*!|>'\"%@`".toList := by decide
  rw [eq, List.contains_cons, List.contains_cons, List.contains_cons]
  rfl

theorem token_plain (here : At s allowed (ch :: rest) column b) (solid : IsSolid ch)
    (noIndicator : isIndicator ch = false)
    (noMark : s.cursor.seesDocumentMark '-' = false ∧ s.cursor.seesDocumentMark '.' = false)
    (noGap : ch = '?' ∨ ch = ':' ∨ ch = '-' → s.cursor.seesGap 1 = false) :
    s.token ch = s.plain := by
  have ne (d : Char) (indicator : isIndicator d = true) : ch ≠ d := by
    rintro rfl
    rw [noIndicator] at indicator
    exact nomatch indicator
  have head : s.cursor.rest = ch :: rest := here.rest
  have noGap' : s.cursor.seesGap = false := by simp [Cursor.seesGap, head, solid.1, solid.2]
  have noBlank (gap : s.cursor.seesGap 1 = false) : s.cursor.seesBlank 1 = false := by
    cases rest with
    | nil => simp [Cursor.seesBlank, head]
    | cons next rest =>
      simp [Cursor.seesGap, head] at gap
      simp [Cursor.seesBlank, head, gap.1]
  have begins : s.beginsPlain = true := by
    rw [beginsPlain]
    simp only [noGap', Cursor.head?, head, List.head?_cons, Option.any_some, contains_indicators,
      noIndicator, here.inFlow]
    by_cases dash : ch = '-'
    · simp [Cursor.sees, head, dash, noBlank (noGap (by simp [dash]))]
    · by_cases mark : ch = '?' ∨ ch = ':'
      · have gap := noGap (mark.imp_right Or.inl)
        rcases mark with rfl | rfl <;> simp [Cursor.sees, head, gap]
      · rw [not_or] at mark
        simp [dash, mark]
  have other (d : Char) (marks : d = '?' ∨ d = ':' ∨ d = '-') :
      (decide (ch = d) && s.cursor.seesGap 1) = false := by
    rw [Bool.and_eq_false_imp, decide_eq_true_eq]
    rintro rfl
    exact noGap marks
  rw [token]
  simp only [noMark, here.inFlow, begins, ne '%' (by decide), ne '[' (by decide), ne '\x7b' (by decide),
    ne ']' (by decide), ne '\x7d' (by decide), ne ',' (by decide), ne '*' (by decide), ne '&' (by decide),
    ne '!' (by decide), ne '|' (by decide), ne '>' (by decide), ne '\'' (by decide), ne '"' (by decide),
    Bool.false_or, other '-' (by simp), other '?' (by simp), other ':' (by simp), decide_false,
    Bool.and_false, Bool.false_and, Bool.false_eq_true, if_false, if_true]

end At

/-! ## Scalars -/

section

variable {cs tail : List Char} {n : Nat}

/-- A plain scalar begins with no mark of structure. -/
theorem no_mark_of_part {c : Cursor} {ch : Char} {more rest : List Char} (part : PlainPart none (ch :: more))
    (eq : c.rest = ch :: (more ++ rest)) :
    isIndicator ch = false ∧ (ch = '?' ∨ ch = ':' ∨ ch = '-' → c.seesGap 1 = false) := by
  have none := part.noStructure
  rw [hasStructure, Bool.or_eq_false_iff] at none
  simp only [marksStructure, Option.isNone_none, if_true, Bool.or_eq_false_iff, Bool.and_eq_false_imp,
    Bool.or_eq_true, decide_eq_true_eq] at none
  refine ⟨none.1.1, fun mark => ?_⟩
  have gap := none.1.2 (or_assoc.2 mark)
  cases more with
  | nil => cases gap
  | cons next more => simpa [Cursor.seesGap, eq] using gap

/-- A plain scalar to the end of its line. -/
theorem Comes.plain (part : PlainPart none cs) (begins : ∃ ch ∈ cs.head?, isSpace ch = false)
    (comes : Comes s allowed (cs ++ '\n' :: (List.replicate n ' ' ++ tail)) column b)
    (follows : Follows n tail) (less : n ≤ b.indent) (inside : b.indent < column) :
    ∃ t, Reaches s t ∧ At t true tail n (b.emits [.scalar .plain (String.ofList cs)]) := by
  obtain ⟨ch, more, rfl⟩ : ∃ ch more, cs = ch :: more := by
    obtain ⟨ch, first, -⟩ := begins
    exact ⟨ch, cs.tail, (List.cons_head?_tail first).symm⟩
  have noSpace : isSpace ch = false := by simpa using begins
  have token {r : Scan} (there : At r allowed (ch :: (more ++ '\n' :: (List.replicate n ' ' ++ tail))) column b) :
      ∃ r' column', r.token ch = .ok r' ∧ column' = n ∧
        At r' true tail column' (b.emits [.scalar .plain (String.ofList (ch :: more))]) := by
    obtain ⟨r', noted, cursor, there'⟩ := there.noteCandidate inside
    have column0 : r.cursor.column ≠ 0 := by
      rw [there.column]
      omega
    obtain ⟨noIndicator, noGap⟩ := no_mark_of_part part there.rest
    have dispatch : r.token ch = r.plain := there.token_plain (part.solid noSpace) noIndicator
      ⟨not_seesDocumentMark _ column0, not_seesDocumentMark _ column0⟩ noGap
    have inside' : r'.indent + 1 ≤ r'.cursor.column := by
      rw [there'.indent, there'.column]
      omega
    have less' : n < r'.indent + 1 := by
      rw [there'.indent]
      omega
    have enough : (ch :: more).length < 2 * r'.cursor.rest.length + 1 := by
      rw [there'.rest]
      simp
      omega
    obtain ⟨c', reads, rest, place⟩ := plain_line part begins there'.rest follows inside' less' enough
    have ended := there'.emitUpTo (.scalar .plain (String.ofList (ch :: more))) c' true
    rw [rest, place] at ended
    refine ⟨_, n, ?_, rfl, ended⟩
    rw [dispatch, Scan.plain, noted]
    simp only [bind, Except.bind, there'.inFlow, reads]
    rfl
  obtain ⟨t, _, reaches, rfl, there⟩ := Comes.step comes token (by simp; omega)
  exact ⟨t, reaches, there⟩

/-- What may be a key and need not be one. -/
theorem Comes.content {ch : Char} {rest : List Char} (comes : Comes s allowed (ch :: rest) column b)
    (inside : b.indent < column) (read : Cursor → Except Break (Token × Cursor)) (t : Token)
    (dispatch : ∀ {r : Scan}, At r allowed (ch :: rest) column b → r.token ch = r.content read)
    (reads : ∀ {c : Cursor}, c.rest = ch :: rest → ∃ c', read c = .ok (t, c') ∧ c'.rest = text)
    (less : text.length ≤ rest.length) :
    ∃ u column', Reaches s u ∧ At u false text column' (b.emits [t]) := by
  have token {r : Scan} (there : At r allowed (ch :: rest) column b) :
      ∃ r' column', r.token ch = .ok r' ∧ True ∧ At r' false text column' (b.emits [t]) := by
    obtain ⟨r', noted, cursor, there'⟩ := there.noteCandidate inside
    obtain ⟨c', reads, rest'⟩ := reads there.rest
    have ended := there'.emitUpTo t c' false
    rw [rest'] at ended
    refine ⟨_, _, ?_, trivial, ended⟩
    rw [dispatch there, Scan.content, noted]
    simp only [bind, Except.bind, cursor, reads]
    rfl
  obtain ⟨u, column', reaches, -, there⟩ := comes.step token less
  exact ⟨u, column', reaches, there⟩

theorem length_le_flatMap {f : Char → List Char} (some : ∀ ch, f ch ≠ []) (cs : List Char) :
    cs.length ≤ (cs.flatMap f).length := by
  induction cs with
  | nil => exact Nat.le_refl 0
  | cons ch cs ih =>
    have pos := List.length_pos_iff.2 (some ch)
    rw [List.flatMap_cons, List.length_append, List.length_cons]
    omega

/-- A text between double quotes. -/
theorem Comes.doubleQuoted (comes : Comes s allowed (Printer.doubleQuoted cs ++ text) column b)
    (column0 : column ≠ 0) (inside : b.indent < column) :
    ∃ t column', Reaches s t ∧ At t false text column' (b.emits [.scalar .doubleQuoted (String.ofList cs)]) := by
  have eq : Printer.doubleQuoted cs ++ text = '"' :: (cs.flatMap spelled ++ '"' :: text) := by
    change ['"'] ++ cs.flatMap spelled ++ ['"'] ++ text = _
    simp
  rw [eq] at comes
  refine comes.content inside (Scan.quoted true .doubleQuoted) _ (fun {r} there => ?_) (fun {c} rest => ?_)
    (by simp; omega)
  · have column0 : r.cursor.column ≠ 0 := by rwa [there.column]
    simp [token, column0, not_seesDocumentMark]
  · have enough : cs.length < c.rest.length := by
      have le := length_le_flatMap (f := spelled) (fun ch => by rw [spelled]; split <;> simp) cs
      rw [rest]
      simp only [List.length_cons, List.length_append]
      omega
    have behind : c.skip.rest = cs.flatMap spelled ++ '"' :: text := by
      rw [rest_skip, rest]
      rfl
    have reads := quoted_double [] behind enough (by simp [Cursor.skip])
    refine ⟨_, by rw [Scan.quoted, reads]; rfl, ?_⟩
    rw [rest_skip, rest_skip, rest, List.drop_one, List.tail_cons, List.drop_length_add_append]
    rfl

/-- A text between single quotes. -/
theorem Comes.singleQuoted (fits : Quotable cs)
    (comes : Comes s allowed (Printer.singleQuoted n cs ++ text) column b) (next : text.head? ≠ some '\'')
    (pos : n ≠ 0) (column0 : column ≠ 0) (inside : b.indent < column) :
    ∃ t column', Reaches s t ∧ At t false text column' (b.emits [.scalar .singleQuoted (String.ofList cs)]) := by
  have eq : Printer.singleQuoted n cs ++ text =
      '\'' :: (movedIn n false (cs.flatMap twice ++ ['\'']) ++ text) := rfl
  rw [eq] at comes
  refine comes.content inside (Scan.quoted false .singleQuoted) _ (fun {r} there => ?_) (fun {c} rest => ?_)
    (by simp)
  · have column0 : r.cursor.column ≠ 0 := by rwa [there.column]
    simp [token, column0, not_seesDocumentMark]
  · have enough : cs.length < c.rest.length := by
      have le := length_le_flatMap (f := twice) (fun ch => by rw [twice]; split <;> simp) cs
      have le' := length_le_movedIn (n := n) false (cs.flatMap twice ++ ['\''])
      rw [rest]
      simp only [List.length_cons, List.length_append, List.length_nil] at le' ⊢
      omega
    have behind : c.skip.rest = movedIn n false (cs.flatMap twice ++ ['\'']) ++ text := by
      rw [rest_skip, rest]
      rfl
    obtain ⟨c', reads, rest'⟩ := quoted_single [] fits behind next pos enough (by simp [Cursor.skip])
    exact ⟨c', by rw [Scan.quoted, reads]; rfl, rest'⟩

/-- A literal block is scanned as one scalar. -/
theorem Comes.literal {outer : Nat} (ne : cs ≠ []) (printable : ∀ ch ∈ cs, isPrintable ch = true)
    (comes : Comes s allowed
      (Printer.endLine (Printer.literal (outer + 2) cs) ++ (List.replicate n ' ' ++ tail)) column b)
    (follows : Follows n tail) (less : n ≤ outer) (indent : b.indent = outer) (column0 : column ≠ 0) :
    ∃ t, Reaches s t ∧ At t true tail n (b.emits [.scalar .literal (String.ofList cs)]) := by
  obtain ⟨more, starts⟩ : ∃ more, Printer.endLine (Printer.literal (outer + 2) cs) = '|' :: more := by
    rw [Printer.endLine]
    split <;> exact ⟨_, rfl⟩
  rw [starts, List.cons_append] at comes
  have token {r : Scan} (there : At r allowed ('|' :: (more ++ (List.replicate n ' ' ++ tail))) column b) :
      ∃ r' column', r.token '|' = .ok r' ∧ column' = n ∧
        At r' true tail column' (b.emits [.scalar .literal (String.ofList cs)]) := by
    have dispatch : r.token '|' = r.block false .literal := by
      have column0 : r.cursor.column ≠ 0 := by rwa [there.column]
      simp [Scan.token, column0, not_seesDocumentMark, there.inFlow]
    have rest : '|' :: r.cursor.skip.rest =
        Printer.endLine (Printer.literal (outer + 2) cs) ++ (List.replicate n ' ' ++ tail) := by
      rw [starts, rest_skip, there.rest]
      rfl
    obtain ⟨c', reads, rest', column'⟩ := block_literal ne printable rest follows less
    have ended := (there.noted (k := none) (by simp)).emitUpTo (.scalar .literal (String.ofList cs)) c' true
    rw [rest'] at ended
    refine ⟨_, _, ?_, column', ended⟩
    rw [dispatch, Scan.block, there.dropCandidate]
    simp only [bind, Except.bind, there.indent, indent, reads]
    rfl
  obtain ⟨t, _, reaches, rfl, there⟩ := comes.step token (by simp; omega)
  exact ⟨t, reaches, there⟩

theorem endLine_line (before : List Char) {ch : Char} (noBreak : isBreak ch = false) :
    Printer.endLine (before ++ [ch]) = before ++ [ch] ++ ['\n'] := by
  have ended := endLine_trail before noBreak (List.forall_mem_nil _)
  rwa [List.append_nil] at ended

/-- A text in its style, to the end of its line. -/
theorem Comes.scalar {i : Nat} {x : String}
    (comes : Comes s allowed (Printer.endLine (Printer.scalar (i + 2) x) ++ text) column b)
    (indent : b.indent = i) (inside : i < column) (starts : Starts i text) :
    ∃ t, Reaches s t ∧ AtLine t text (b.emits [.scalar (Printer.styleOf x) x]) := by
  have inside' : b.indent < column := by rw [indent]; exact_mod_cast inside
  have column0 : column ≠ 0 := by omega
  have starts' := starts
  obtain ⟨n, tail, rfl, follows, le⟩ := starts
  have fits := fitsStyle x
  rw [Printer.scalar] at comes
  cases style : Printer.styleOf x <;> rw [style] at fits comes <;> cases fits
  · next part begins =>
    obtain ⟨before, ch, eq⟩ : ∃ before ch, x.toList = before ++ [ch] := by
      rcases List.eq_nil_or_concat x.toList with empty | ⟨before, ch, eq⟩
      · rw [empty] at begins
        exact absurd begins (by simp)
      · exact ⟨before, ch, eq.trans List.concat_eq_append⟩
    have noBreak := part.line ch (by rw [eq]; simp)
    rw [eq, endLine_line before noBreak, ← eq, List.append_assoc, List.singleton_append] at comes
    have less : n ≤ b.indent := by rw [indent]; exact_mod_cast le
    obtain ⟨t, reaches, there⟩ := comes.plain part begins follows less inside'
    rw [String.ofList_toList] at there
    exact ⟨t, reaches, there.atLine_here follows⟩
  · next fits =>
    have noBreak : isBreak '\'' = false := by decide
    obtain ⟨before, eq⟩ := movedIn_last (n := i + 2) false (x.toList.flatMap twice) noBreak
    have printed : Printer.singleQuoted (i + 2) x.toList = '\'' :: before ++ ['\''] := by
      change ['\''] ++ movedIn (i + 2) false (x.toList.flatMap twice ++ ['\'']) = _
      rw [eq]
      rfl
    rw [printed, endLine_line _ noBreak, ← printed, List.append_assoc, List.singleton_append] at comes
    obtain ⟨t, _, reaches, there⟩ := comes.singleQuoted fits (by simp) (by omega) column0 inside'
    rw [String.ofList_toList] at there
    exact ⟨t, reaches, there.atLine starts'⟩
  · have printed : Printer.doubleQuoted x.toList = ['"'] ++ x.toList.flatMap spelled ++ ['"'] := rfl
    rw [printed, endLine_line _ (by decide), ← printed, List.append_assoc, List.singleton_append] at comes
    obtain ⟨t, _, reaches, there⟩ := comes.doubleQuoted column0 inside'
    rw [String.ofList_toList] at there
    exact ⟨t, reaches, there.atLine starts'⟩
  · next ne printable =>
    obtain ⟨t, reaches, there⟩ := comes.literal ne printable follows le indent column0
    rw [String.ofList_toList] at there
    exact ⟨t, reaches, there.atLine_here follows⟩

/-- A word, to the end of its line. -/
theorem Comes.word {i : Nat} {x : String} (word : IsWord x.toList)
    (comes : Comes s allowed (x.toList ++ '\n' :: text) column b) (indent : b.indent = i) (inside : i < column)
    (starts : Starts i text) :
    ∃ t, Reaches s t ∧ AtLine t text (b.emits [.scalar .plain x]) := by
  obtain ⟨n, tail, rfl, follows, le⟩ := starts
  obtain ⟨t, reaches, there⟩ := comes.plain word.plainPart word.begins follows
    (by rw [indent]; exact_mod_cast le) (by rw [indent]; exact_mod_cast inside)
  rw [String.ofList_toList] at there
  exact ⟨t, reaches, there.atLine_here follows⟩

end

end Scan

end ResourceTree.Yaml
