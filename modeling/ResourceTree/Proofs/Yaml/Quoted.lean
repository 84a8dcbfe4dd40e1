import ResourceTree.Proofs.Yaml.Gaps

/-!
# Quoted scalars

A text between quotes is the content of the scalar that the printer makes of it. Between double quotes the
escape of every character is read back as this character, whatever follows it.
-/

namespace ResourceTree.Yaml
set_option autoImplicit false

open Number (digitValue? digitsValue?)
open Printer (isPrintable isSpace hasPair movedIn)

variable {c : Cursor} {tail : List Char}

/-! ## Hexadecimal digits -/

theorem digitValue?_upperDigit {d : Nat} (less : d < 16) :
    digitValue? 16 (Nat.digitChar d).toUpper = some d := by
  have each : ∀ d ∈ List.range 16, digitValue? 16 (Nat.digitChar d).toUpper = some d := by decide
  exact each d (List.mem_range.2 less)

/-- The number that more digits make of one so far. -/
def moreDigits (n : Nat) (cs : List Char) : Option Nat :=
  cs.foldlM (fun n c => (digitValue? 16 c).map (n * 16 + ·)) n

theorem moreDigits_append (n : Nat) (cs ds : List Char) :
    moreDigits n (cs ++ ds) = (moreDigits n cs).bind (moreDigits · ds) := by
  rw [moreDigits, List.foldlM_append]
  rfl

theorem moreDigits_singleton {d : Nat} (n : Nat) (less : d < 16) :
    moreDigits n [(Nat.digitChar d).toUpper] = some (n * 16 + d) := by
  rw [moreDigits, List.foldlM_cons, digitValue?_upperDigit less]
  rfl

theorem moreDigits_zeros (k : Nat) : moreDigits 0 (List.replicate k '0') = some 0 := by
  induction k with
  | zero => rfl
  | succ k ih =>
    rw [List.replicate_succ', moreDigits_append, ih]
    rfl

theorem moreDigits_toDigits (n : Nat) : moreDigits 0 ((Nat.toDigits 16 n).map Char.toUpper) = some n := by
  induction n using Nat.strongRecOn with
  | _ n ih =>
    rw [Nat.toDigits_eq_if (by decide)]
    split
    · next less =>
      rw [List.map_singleton, moreDigits_singleton 0 less, Nat.zero_mul, Nat.zero_add]
    · next notLess =>
      rw [List.map_append, List.map_singleton, moreDigits_append, ih (n / 16) (by omega),
        Option.bind_some, moreDigits_singleton _ (Nat.mod_lt n (by decide))]
      congr 1
      omega

theorem length_hexDigits {width n : Nat} (pos : 0 < width) (less : n < Nat.pow 16 width) :
    (Printer.hexDigits width n).length = width := by
  have le := (Nat.length_toDigits_le_iff (by decide) pos).2 less
  simp only [Printer.hexDigits, List.length_append, List.length_replicate, List.length_map]
  omega

/-- A number is read back from its digits to the base sixteen. -/
theorem digitsValue?_hexDigits {width n : Nat} (pos : 0 < width) (less : n < Nat.pow 16 width) :
    digitsValue? 16 (Printer.hexDigits width n) = some n := by
  have all : moreDigits 0 (Printer.hexDigits width n) = some n := by
    rw [Printer.hexDigits, moreDigits_append, moreDigits_zeros]
    exact moreDigits_toDigits n
  cases eq : Printer.hexDigits width n with
  | nil =>
    have length := length_hexDigits pos less
    rw [eq] at length
    simp at length
    omega
  | cons c cs =>
    rw [eq] at all
    exact all

/-- The digits of a character spell it. -/
theorem hexChar_hexDigits (c : Char) {width : Nat} (pos : 0 < width) (less : c.toNat < Nat.pow 16 width)
    (more : List Char) :
    Content.hexChar ((Printer.hexDigits width c.toNat ++ more).take width) width = .ok c := by
  have length := length_hexDigits pos less
  have taken : (Printer.hexDigits width c.toNat ++ more).take width =
      Printer.hexDigits width c.toNat := List.take_left' length
  rw [Content.hexChar, taken, if_pos length, digitsValue?_hexDigits pos less]
  exact dif_pos c.valid

/-! ## Escapes -/

/-- An escape is read back and says how long it is. -/
theorem escape_reads (c : Char) (more : List Char) :
    Content.escape (Printer.escape c ++ more) = .ok (c, (Printer.escape c).length) := by
  have hex (mark : Char) (width : Nat) (plain : Content.escaped? mark = none)
      (marked : Content.hexWidth? mark = some width) (pos : 0 < width) (less : c.toNat < Nat.pow 16 width) :
      Content.escape (mark :: Printer.hexDigits width c.toNat ++ more) =
        .ok (c, (mark :: Printer.hexDigits width c.toNat).length) := by
    rw [List.cons_append, Content.escape, plain, marked]
    simp only [hexChar_hexDigits c pos less, List.length_cons, length_hexDigits pos less]
    rfl
  unfold Printer.escape
  split
  case h_16 =>
    simp only
    split
    · next short => exact hex 'x' 2 rfl rfl (by decide) (Nat.lt_of_le_of_lt short (by decide))
    · split
      · next short => exact hex 'u' 4 rfl rfl (by decide) (Nat.lt_of_le_of_lt short (by decide))
      · have valid : c.toNat < 0xD800 ∨ 0xDFFF < c.toNat ∧ c.toNat < 0x110000 := c.valid
        have bound : c.toNat < 0x110000 := by omega
        exact hex 'U' 8 rfl rfl (by decide) (Nat.lt_trans bound (by decide))
  all_goals rfl

/-- No escape begins with a break. -/
theorem escape_head (c : Char) : (Printer.escape c).head?.any isBreak = false := by
  unfold Printer.escape
  split
  case h_16 =>
    simp only
    split
    · rfl
    · split <;> rfl
  all_goals rfl

/-! ## Double quotes -/

/-- A character between double quotes. -/
def spelled (ch : Char) : List Char :=
  if !isPrintable ch || isBreak ch || ch = '"' || ch = '\\' then '\\' :: Printer.escape ch else [ch]

/-- What is spelled begins with something solid, spaces aside. -/
theorem spelled_head {ch : Char} (noSpace : isSpace ch = false) :
    ∃ first more, spelled ch = first :: more ∧ IsSolid first := by
  rw [spelled]
  split
  · exact ⟨_, _, rfl, by decide, by decide⟩
  · next raw =>
    simp only [Bool.or_eq_true, Bool.not_eq_true', decide_eq_true_eq, not_or, Bool.not_eq_false,
      Bool.not_eq_true] at raw
    exact ⟨ch, [], rfl, (isBlank_of_isPrintable raw.1.1.1).trans noSpace, raw.1.1.2⟩

section

variable {steps : Nat} {done : List Char} {ch : Char}

/-- The closing quote ends the scalar. -/
theorem quoted_end (double : Bool) (eq : c.rest = (if double then '"' else '\'') :: tail)
    (single : double = false → tail.head? ≠ some '\'') (inside : c.column ≠ 0) :
    Content.quoted double (steps + 1) done c = .ok (done.reverse, c.skip) := by
  rw [Content.quoted, not_seesDocumentMark _ inside, not_seesDocumentMark _ inside, eq]
  cases double with
  | true => simp [isBlank, isBreak]
  | false => simp [isBlank, isBreak, single rfl]

/-- A character that stands for itself. -/
theorem quoted_solid (double : Bool) (eq : c.rest = ch :: tail) (solid : IsSolid ch)
    (noQuote : ch ≠ if double then '"' else '\'') (noEscape : double = true → ch ≠ '\\')
    (inside : c.column ≠ 0) :
    Content.quoted double (steps + 1) done c = Content.quoted double steps (ch :: done) c.skip := by
  rw [Content.quoted, not_seesDocumentMark _ inside, not_seesDocumentMark _ inside, eq]
  cases double with
  | true => simp_all [solid.1, solid.2]
  | false => simp_all [solid.1, solid.2]

/-- A gap is read as what it folds to. -/
theorem quoted_gap (double : Bool) {g : Gap} {c' : Cursor} (eq : c.rest = ch :: tail)
    (gap : (isBlank ch || isBreak ch) = true) (inside : c.column ≠ 0)
    (taken : Gap.take (fun _ => true) c.rest.length {} c = .ok (g, c')) :
    Content.quoted double (steps + 1) done c =
      Content.quoted double steps (g.fold.reverse ++ done) c' := by
  rw [Content.quoted, not_seesDocumentMark _ inside, not_seesDocumentMark _ inside]
  simp only [taken]
  rw [eq]
  simp only [gap, Bool.or_self, Bool.false_eq_true, if_false, if_true]
  rfl

/-- An escape is read as the character that it is printed for. -/
theorem quoted_escape (eq : c.rest = '\\' :: (Printer.escape ch ++ tail)) (inside : c.column ≠ 0) :
    Content.quoted true (steps + 1) done c =
      Content.quoted true steps (ch :: done) (c.skip ((Printer.escape ch).length + 1)) := by
  have noBreak : c.seesBreak 1 = false := by
    have head := escape_head ch
    have some : Printer.escape ch ≠ [] := by
      unfold Printer.escape
      split <;> (try simp only) <;> (try split) <;> (try split) <;> simp
    obtain ⟨first, more, spells⟩ := List.exists_cons_of_ne_nil some
    rw [spells] at head
    simpa [Cursor.seesBreak, eq, spells] using head
  rw [Content.quoted, not_seesDocumentMark _ inside, not_seesDocumentMark _ inside, eq]
  simp only [show isBlank '\\' = false by decide, show isBreak '\\' = false by decide, noBreak,
    escape_reads, show ('\\' = '"') = False by decide, decide_false, decide_true, Bool.or_self,
    Bool.not_true, Bool.false_and, Bool.and_false, Bool.and_self, Bool.false_eq_true, if_false, if_true]
  rfl

end

/-- A text in double quotes is read back. -/
theorem quoted_double {s : List Char} {steps : Nat} (done : List Char)
    (eq : c.rest = s.flatMap spelled ++ '"' :: tail) (enough : s.length < steps)
    (inside : c.column ≠ 0) :
    Content.quoted true steps done c =
      .ok (done.reverse ++ s, c.skip ((s.flatMap spelled).length + 1)) := by
  induction s using runs_induction isSpace generalizing c steps done with
  | nil =>
    obtain ⟨steps, rfl⟩ := Nat.exists_eq_succ_of_ne_zero (by omega : steps ≠ 0)
    rw [quoted_end true eq (by simp) inside]
    simp
  | other ch s noSpace ih =>
    obtain ⟨steps, rfl⟩ := Nat.exists_eq_succ_of_ne_zero (by omega : steps ≠ 0)
    rw [List.length_cons] at enough
    have skipped (n : Nat) : (c.skip n).column ≠ 0 := by
      simp only [Cursor.skip]
      omega
    rw [List.flatMap_cons, List.append_assoc, spelled] at eq
    rw [List.flatMap_cons, spelled]
    split at eq
    · next escaped =>
      rw [if_pos escaped]
      rw [quoted_escape eq inside, ih _ (by simp [rest_skip, eq]) (by omega) (skipped _), skip_skip,
        List.reverse_cons, List.append_assoc, List.singleton_append, List.length_append, List.length_cons,
        Nat.add_assoc ((Printer.escape ch).length + 1)]
    · next raw =>
      rw [if_neg raw]
      simp only [Bool.or_eq_true, Bool.not_eq_true', decide_eq_true_eq, not_or, Bool.not_eq_false,
        Bool.not_eq_true] at raw
      obtain ⟨⟨⟨printable, noBreak⟩, noQuote⟩, noEscape⟩ := raw
      have solid : IsSolid ch := ⟨(isBlank_of_isPrintable printable).trans noSpace, noBreak⟩
      rw [quoted_solid true eq solid (by simpa using noQuote) (fun _ => noEscape) inside,
        ih _ (by simp [rest_skip, eq]) (by omega) (skipped _), skip_skip, List.reverse_cons, List.append_assoc,
        List.singleton_append, List.length_append, List.length_singleton, Nat.add_assoc 1]
  | run r s some spaces stop ih =>
    obtain ⟨steps, rfl⟩ := Nat.exists_eq_succ_of_ne_zero (by omega : steps ≠ 0)
    have eqSpaces := eq_replicate_of_isSpace spaces
    have pos := List.length_pos_iff.2 some
    generalize r.length = n at *
    subst eqSpaces
    have raw : (List.replicate n ' ').flatMap spelled = List.replicate n ' ' := by
      rw [List.flatMap_replicate]
      simp [spelled, isPrintable, isBreak]
    rw [List.flatMap_append, raw] at eq ⊢
    rw [List.append_assoc] at eq
    have solid : StartsSolid (s.flatMap spelled ++ '"' :: tail) := by
      cases s with
      | nil =>
        rintro _ ⟨⟩
        exact ⟨by decide, by decide⟩
      | cons d s =>
        obtain ⟨first, more, spells, solid⟩ := spelled_head (stop d rfl)
        rw [List.flatMap_cons, spells]
        rintro _ ⟨⟩
        exact solid
    have fits : n ≤ c.rest.length := by simp [eq]
    have taken : Gap.take (fun _ => true) c.rest.length {} c =
        .ok ({ blanks := List.replicate n ' ' }, c.skip n) := Gap.take_spaces eq solid fits rfl
    obtain ⟨k, rfl⟩ := Nat.exists_eq_succ_of_ne_zero (by omega : n ≠ 0)
    have first : c.rest = ' ' :: (List.replicate k ' ' ++ (s.flatMap spelled ++ '"' :: tail)) := by
      rw [eq, List.replicate_succ, List.cons_append]
    have less : s.length < steps := by
      simp only [List.length_append, List.length_replicate] at enough
      omega
    have inside' : (c.skip (k + 1)).column ≠ 0 := by
      simp only [Cursor.skip]
      omega
    rw [quoted_gap true first (by decide) inside taken,
      ih _ (by rw [rest_skip, eq, List.drop_left' List.length_replicate]) less inside', skip_skip]
    simp [Gap.fold, Nat.add_assoc]

/-! ## Single quotes -/

/-- A character between single quotes. -/
def twice (ch : Char) : List Char := if ch = '\'' then ['\'', '\''] else [ch]

theorem twice_of_gap {ch : Char} (gap : (isSpace ch || isBreak ch) = true) : twice ch = [ch] := by
  refine if_neg ?_
  rintro rfl
  exact absurd gap (by decide)

theorem flatMap_twice_of_gaps {r : List Char} (gaps : ∀ ch ∈ r, (isSpace ch || isBreak ch) = true) :
    r.flatMap twice = r := by
  induction r with
  | nil => rfl
  | cons ch r ih =>
    rw [List.flatMap_cons, twice_of_gap (gaps ch List.mem_cons_self),
      ih fun ch member => gaps ch (List.mem_cons_of_mem _ member), List.singleton_append]

/-- A text that has a place between single quotes. -/
structure Quotable (s : List Char) : Prop where
  printable : ∀ ch ∈ s, isPrintable ch = true
  noFeed : '\n' ∉ s
  noTrailing : hasPair isSpace isBreak s = false
  noLeading : hasPair isBreak isSpace s = false

namespace Quotable

variable {r s : List Char}

theorem of_append (fits : Quotable (r ++ s)) : Quotable r ∧ Quotable s :=
  ⟨⟨fun ch member => fits.printable ch (List.mem_append_left _ member),
      fun member => fits.noFeed (List.mem_append_left _ member),
      (hasPair_append fits.noTrailing).1, (hasPair_append fits.noLeading).1⟩,
    ⟨fun ch member => fits.printable ch (List.mem_append_right _ member),
      fun member => fits.noFeed (List.mem_append_right _ member),
      (hasPair_append fits.noTrailing).2, (hasPair_append fits.noLeading).2⟩⟩

/-- What follows a run of spaces and breaks is a solid character, the last one the closing quote. -/
theorem startsSolid (fits : Quotable s)
    (stop : ∀ ch ∈ s.head?, (isSpace ch || isBreak ch) = false) :
    ∃ ch more, s.flatMap twice ++ ['\''] = ch :: more ∧ IsSolid ch := by
  cases s with
  | nil => exact ⟨'\'', [], rfl, by decide, by decide⟩
  | cons ch s =>
    have noGap := stop ch rfl
    rw [Bool.or_eq_false_iff] at noGap
    have solid : IsSolid ch :=
      ⟨(isBlank_of_isPrintable (fits.printable ch List.mem_cons_self)).trans noGap.1, noGap.2⟩
    rw [List.flatMap_cons, twice]
    split
    · next quote => exact ⟨'\'', _, rfl, quote ▸ solid⟩
    · exact ⟨ch, _, rfl, solid⟩

end Quotable

/-- A quote that is doubled. -/
theorem quoted_twice {steps : Nat} {done : List Char} (eq : c.rest = '\'' :: '\'' :: tail)
    (inside : c.column ≠ 0) :
    Content.quoted false (steps + 1) done c = Content.quoted false steps ('\'' :: done) (c.skip 2) := by
  rw [Content.quoted, not_seesDocumentMark _ inside, not_seesDocumentMark _ inside, eq]
  simp [isBlank, isBreak]

/-- A run of spaces or breaks in front of a solid character. -/
theorem quoted_run {r more : List Char} {ch : Char} {n : Nat} (steps : Nat) (done : List Char) (fits : Quotable r)
    (some : r ≠ []) (gaps : ∀ ch ∈ r, (isSpace ch || isBreak ch) = true)
    (eq : c.rest = movedIn n false (r ++ ch :: more) ++ tail) (solid : IsSolid ch) (pos : n ≠ 0)
    (inside : c.column ≠ 0) :
    ∃ c', Content.quoted false (steps + 1) done c = Content.quoted false steps (r.reverse ++ done) c' ∧
      c'.rest = movedIn n false (ch :: more) ++ tail ∧ c'.column ≠ 0 := by
  have startsSolid : StartsSolid (movedIn n false (ch :: more) ++ tail) := by
    have line : movedIn n false (ch :: more) = ch :: movedIn n false more := by simp [movedIn, solid.2]
    rw [line]
    rintro _ ⟨⟩
    exact solid
  obtain ⟨b, bs, rfl⟩ := List.exists_cons_of_ne_nil some
  rcases all_of_not_hasPair gaps fits.noTrailing fits.noLeading with spaces | breaks
  · -- spaces stay on their line
    have noBreaks : ∀ ch ∈ b :: bs, isBreak ch = false := fun ch member => by
      rw [show ch = ' ' by simpa [isSpace] using spaces ch member]
      exact isBreak_space
    rw [movedIn_line noBreaks, List.append_assoc] at eq
    have first := eq
    rw [eq_replicate_of_isSpace spaces] at eq
    have taken : Gap.take (fun _ => true) c.rest.length {} c =
        .ok ({ blanks := List.replicate (b :: bs).length ' ' }, c.skip (b :: bs).length) :=
      Gap.take_spaces eq startsSolid (by simp [eq]) rfl
    have space : b = ' ' := by simpa [isSpace] using spaces b List.mem_cons_self
    refine ⟨c.skip (b :: bs).length, ?_, by rw [rest_skip, first, List.drop_left], ?_⟩
    · rw [quoted_gap false first (by simp [space, isBlank]) inside taken]
      simp only [Gap.fold]
      rw [← eq_replicate_of_isSpace spaces]
    · simp only [Cursor.skip]
      omega
  · -- after breaks comes a line that is moved in
    have stands : AllBreaks (b :: bs) := fun ch member => ⟨breaks ch member, fits.printable ch member⟩
    have noFeed : b ≠ '\n' := fun feed => fits.noFeed (feed ▸ List.mem_cons_self)
    have head : movedIn n false (b :: bs ++ ch :: more) = b :: movedIn n true (bs ++ ch :: more) := by
      simp [movedIn, breaks b List.mem_cons_self]
    rw [head, movedIn_breaks fun b member => breaks b (List.mem_cons_of_mem _ member),
      movedIn_after solid.2, List.cons_append, List.append_assoc, List.append_assoc] at eq
    have enough : bs.length + n < c.rest.length := by
      rw [eq, List.length_cons, List.length_append, List.length_append, List.length_replicate]
      omega
    obtain ⟨c', taken, rest, column, -⟩ := Gap.take_breaks (fun _ => true) c.rest.length stands eq startsSolid enough
    refine ⟨c', ?_, rest, by omega⟩
    rw [quoted_gap false eq (by simp [breaks b List.mem_cons_self]) inside taken]
    have fold : Gap.fold { first := Option.some [b], more := bs } = b :: bs := by simp [Gap.fold, noFeed]
    rw [fold]

/-- A text between single quotes is read back, with the lines after its breaks moved in. -/
theorem quoted_single {s : List Char} {n steps : Nat} (done : List Char) (fits : Quotable s)
    (eq : c.rest = movedIn n false (s.flatMap twice ++ ['\'']) ++ tail)
    (next : tail.head? ≠ some '\'') (pos : n ≠ 0) (enough : s.length < steps) (inside : c.column ≠ 0) :
    ∃ c', Content.quoted false steps done c = .ok (done.reverse ++ s, c') ∧ c'.rest = tail := by
  induction s using runs_induction (fun ch => isSpace ch || isBreak ch) generalizing c steps done with
  | nil =>
    obtain ⟨steps, rfl⟩ := Nat.exists_eq_succ_of_ne_zero (by omega : steps ≠ 0)
    refine ⟨c.skip, ?_, by simp [rest_skip, eq, movedIn, isBreak]⟩
    rw [quoted_end false (by simpa [movedIn, isBreak] using eq) (fun _ => next) inside, List.append_nil]
  | other ch s noGap ih =>
    obtain ⟨steps, rfl⟩ := Nat.exists_eq_succ_of_ne_zero (by omega : steps ≠ 0)
    rw [List.length_cons] at enough
    rw [Bool.or_eq_false_iff] at noGap
    have skipped (k : Nat) : (c.skip k).column ≠ 0 := by
      simp only [Cursor.skip]
      omega
    have solid : IsSolid ch :=
      ⟨(isBlank_of_isPrintable (fits.printable ch List.mem_cons_self)).trans noGap.1, noGap.2⟩
    have fits' : Quotable s := (Quotable.of_append (r := [ch]) fits).2
    rw [List.flatMap_cons, List.append_assoc, twice] at eq
    split at eq
    · next quote =>
      rw [movedIn_line (by simp [isBreak]), List.append_assoc] at eq
      obtain ⟨c', read, ends⟩ := ih (c := c.skip 2) ('\'' :: done) fits' (by simp [rest_skip, eq])
        (by omega : s.length < steps) (skipped 2)
      exact ⟨c', by rw [quoted_twice eq inside, read, quote]; simp, ends⟩
    · next noQuote =>
      rw [movedIn_line (by simp [solid.2]), List.append_assoc] at eq
      obtain ⟨c', read, ends⟩ := ih (c := c.skip) (ch :: done) fits' (by simp [rest_skip, eq])
        (by omega : s.length < steps) (skipped 1)
      refine ⟨c', ?_, ends⟩
      rw [quoted_solid false eq solid noQuote (by simp) inside, read]
      simp
  | run r s some gaps stop ih =>
    obtain ⟨steps, rfl⟩ := Nat.exists_eq_succ_of_ne_zero (by omega : steps ≠ 0)
    have less : s.length < steps := by
      have pos := List.length_pos_iff.2 some
      rw [List.length_append] at enough
      omega
    obtain ⟨fitsRun, fitsRest⟩ := fits.of_append
    rw [List.flatMap_append, flatMap_twice_of_gaps gaps, List.append_assoc] at eq
    obtain ⟨ch, more, starts, solid⟩ := fitsRest.startsSolid stop
    rw [starts] at eq ih
    obtain ⟨c₁, passed, rest, column⟩ := quoted_run steps done fitsRun some gaps eq solid pos inside
    obtain ⟨c', read, ends⟩ := ih (r.reverse ++ done) fitsRest rest less column
    refine ⟨c', ?_, ends⟩
    rw [passed, read]
    simp

end ResourceTree.Yaml
