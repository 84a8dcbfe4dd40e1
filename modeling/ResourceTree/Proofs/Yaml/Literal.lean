import ResourceTree.Proofs.Yaml.Gaps

/-!
# Literal blocks

A text is lines with breaks between and around them. A literal block keeps each break, moves in each
line, and says by its mark what becomes of the breaks at the end, so that the text is read back.
-/

namespace ResourceTree.Yaml
set_option autoImplicit false

open Printer (isPrintable isSpace movedIn)

variable {c : Cursor} {tail : List Char}

/-! ## Lines -/

/-- Lines, none of them empty at the beginning or the end, with the breaks between them. -/
inductive Lines : List Char → Prop where
  | last {line : List Char} (some : line ≠ []) (noBreaks : ∀ ch ∈ line, isBreak ch = false) : Lines line
  | more {line body : List Char} (b : Char) (bs : List Char) (some : line ≠ [])
      (noBreaks : ∀ ch ∈ line, isBreak ch = false) (breaks : ∀ b' ∈ b :: bs, isBreak b' = true)
      (rest : Lines body) : Lines (line ++ b :: bs ++ body)

namespace Lines

variable {body s : List Char} {ch : Char}

theorem cons (lines : Lines body) (noBreak : isBreak ch = false) : Lines (ch :: body) := by
  cases lines with
  | last some noBreaks => exact .last (List.cons_ne_nil _ _) (List.forall_mem_cons.2 ⟨noBreak, noBreaks⟩)
  | @more line body b bs some noBreaks breaks rest =>
    have longer : ∀ d ∈ ch :: line, isBreak d = false := List.forall_mem_cons.2 ⟨noBreak, noBreaks⟩
    exact .more b bs (List.cons_ne_nil ch line) longer breaks rest

/-- The first line begins with no break. -/
theorem begins (lines : Lines body) : ∃ ch more, body = ch :: more ∧ isBreak ch = false := by
  cases lines with
  | last some noBreaks =>
    obtain ⟨ch, more, rfl⟩ := List.exists_cons_of_ne_nil some
    exact ⟨ch, more, rfl, noBreaks ch List.mem_cons_self⟩
  | more b bs some noBreaks breaks rest =>
    obtain ⟨ch, more, rfl⟩ := List.exists_cons_of_ne_nil some
    exact ⟨ch, _, rfl, noBreaks ch List.mem_cons_self⟩

/-- The last line ends with no break. -/
theorem ends (lines : Lines body) : ∃ before ch, body = before ++ [ch] ∧ isBreak ch = false := by
  induction lines with
  | last some noBreaks =>
    obtain ⟨before, ch, rfl⟩ := List.eq_nil_or_concat _ |>.resolve_left some
    exact ⟨before, ch, List.concat_eq_append, noBreaks ch (by simp)⟩
  | @more line body b bs some noBreaks breaks rest ih =>
    obtain ⟨before, ch, rfl, noBreak⟩ := ih
    exact ⟨line ++ b :: bs ++ before, ch, by simp, noBreak⟩

/-- A text is breaks alone, or lines with breaks around them. -/
theorem split (s : List Char) : (∀ ch ∈ s, isBreak ch = true) ∨
    ∃ lead body trail, s = lead ++ (body ++ trail) ∧ (∀ ch ∈ lead, isBreak ch = true) ∧ Lines body ∧
      ∀ ch ∈ trail, isBreak ch = true := by
  induction s with
  | nil => exact Or.inl fun _ member => nomatch member
  | cons ch s ih =>
    cases kind : isBreak ch with
    | true =>
      rcases ih with breaks | ⟨lead, body, trail, rfl, leads, lines, trails⟩
      · exact Or.inl (List.forall_mem_cons.2 ⟨kind, breaks⟩)
      · exact Or.inr ⟨ch :: lead, body, trail, rfl, List.forall_mem_cons.2 ⟨kind, leads⟩, lines, trails⟩
    | false =>
      have alone : Lines [ch] := .last (List.cons_ne_nil _ _) (by simpa using kind)
      rcases ih with breaks | ⟨_ | ⟨b, bs⟩, body, trail, rfl, leads, lines, trails⟩
      · exact Or.inr ⟨[], [ch], s, rfl, by simp, alone, breaks⟩
      · exact Or.inr ⟨[], ch :: body, trail, rfl, by simp, lines.cons kind, trails⟩
      · exact Or.inr ⟨[], [ch] ++ b :: bs ++ body, trail, by simp, by simp,
          .more b bs (List.cons_ne_nil _ _) (by simpa using kind) leads lines, trails⟩

end Lines

/-! ## Literal blocks -/

namespace Content

variable {n k steps widest : Nat} {breaks bs body rest : List Char} {blk : Block}

theorem length_takeWhile_spaces (fits : k = n ∨ k < n ∧ ∀ ch ∈ rest.head?, isBlank ch = false) :
    (((List.replicate k ' ' ++ rest).take n).takeWhile (· = ' ')).length = k := by
  have spaces : ∀ ch ∈ List.replicate k ' ', decide (ch = ' ') = true := by simp
  rcases fits with rfl | ⟨less, noBlank⟩
  · rw [List.take_left' List.length_replicate]
    simp
  · rw [List.take_append, List.take_of_length_le (by simp; omega), List.takeWhile_append_of_pos spaces,
      List.length_append, List.length_replicate]
    cases rest with
    | nil => simp
    | cons ch rest =>
      obtain ⟨m, more⟩ := Nat.exists_eq_add_of_lt less
      have noSpace : ch ≠ ' ' := by
        rintro rfl
        exact absurd (noBlank ' ' rfl) (by decide)
      rw [show n - k = m + 1 by omega, List.take_succ_cons]
      simp [noSpace]

/-- Empty lines and the spaces of the line after them, where the indentation is known. -/
theorem emptyLines_reads (widest : Nat) (breaks : List Char) (stands : AllBreaks bs)
    (eq : c.rest = bs ++ (List.replicate k ' ' ++ rest)) (start : c.column = 0)
    (fits : k = n ∨ k < n ∧ ∀ ch ∈ rest.head?, isBlank ch = false)
    (noBreak : ∀ ch ∈ rest.head?, isBreak ch = false) (enough : c.rest.length ≤ steps) :
    ∃ widest' c', emptyLines (some n) steps breaks widest c = .ok (breaks ++ bs, widest', c') ∧
      c'.rest = rest ∧ c'.column = k := by
  induction bs generalizing c breaks widest steps with
  | nil =>
    rw [List.nil_append] at eq
    cases steps with
    | zero =>
      -- the text ends here
      obtain ⟨rfl, rfl⟩ : k = 0 ∧ rest = [] := by simpa [eq] using enough
      exact ⟨widest, c, by rw [emptyLines, List.append_nil], by simpa using eq, start⟩
    | succ steps =>
      have spaces : ((c.rest.take (n - c.column)).takeWhile (· = ' ')).length = k := by
        rw [eq, start, Nat.sub_zero, length_takeWhile_spaces fits]
      have passed : (c.skip k).rest = rest := by
        rw [rest_skip, eq, List.drop_left' List.length_replicate]
      have column : (c.skip k).column = k := by simp [Cursor.skip, start]
      have ends : (c.skip k).seesBreak = false := by
        rw [Cursor.seesBreak, passed, ← List.head?_eq_getElem?]
        cases rest with
        | nil => rfl
        | cons ch rest => exact noBreak ch rfl
      have noTab : (decide (k < n) && (c.skip k).sees '\t') = false := by
        rw [Bool.and_eq_false_imp, decide_eq_true_eq]
        intro less
        have noBlank := fits.resolve_left (Nat.ne_of_lt less) |>.2
        rw [Cursor.sees, passed, ← List.head?_eq_getElem?, decide_eq_false_iff_not]
        intro tab
        exact absurd (noBlank '\t' tab) (by decide)
      refine ⟨max widest k, c.skip k, ?_, passed, column⟩
      rw [emptyLines]
      simp only [spaces, column, noTab, ends, Bool.false_eq_true, if_false, List.append_nil]
  | cons b bs ih =>
    obtain ⟨isBreak, printable⟩ := stands b List.mem_cons_self
    have noBlank := isBlank_of_isBreak isBreak
    simp only [isBlank, Bool.or_eq_false_iff, decide_eq_false_iff_not] at noBlank
    have spaces : ((c.rest.take (n - c.column)).takeWhile (· = ' ')).length = 0 := by
      rw [eq, List.cons_append]
      cases n - c.column <;> simp [noBlank.1]
    have sees : c.seesBreak = true := by simp [Cursor.seesBreak, eq, isBreak]
    have noTab : c.sees '\t' = false := by simp [Cursor.sees, eq, noBlank.2]
    obtain ⟨steps, rfl⟩ := Nat.exists_eq_succ_of_ne_zero (by simp [eq] at enough; omega : steps ≠ 0)
    obtain ⟨widest', c', read, ends⟩ := ih (c := c.nextLine 1) (max widest c.column) (breaks ++ [b])
      (fun b' member => stands b' (List.mem_cons_of_mem _ member))
      (by simp [Cursor.nextLine, eq]) rfl (by simpa [Cursor.nextLine, eq] using enough)
    refine ⟨widest', c', ?_, ends⟩
    rw [emptyLines]
    simp only [spaces, skip_zero, noTab, sees, Bool.and_false, Bool.false_eq_true, if_false, if_true,
      takeBreak_eq eq isBreak printable, read, List.append_assoc, List.singleton_append]

/-- Behind the lines of a block. -/
theorem blockLines_stop (folds : Bool) (steps : Nat) (blk : Block) (outside : c.column ≠ n) :
    blockLines folds n steps blk c = .ok (blk, c) := by
  cases steps with
  | zero => rfl
  | succ steps => rw [blockLines, if_neg (by simp [outside])]

/-- One line of a literal block, with the breaks after it. -/
theorem blockLines_line {line : List Char} {b : Char} (steps : Nat) (blk : Block)
    (noBreaks : ∀ ch ∈ line, isBreak ch = false) (stands : AllBreaks (b :: bs))
    (eq : c.rest = line ++ b :: (bs ++ (List.replicate k ' ' ++ rest))) (column : c.column = n)
    (fits : k = n ∨ k < n ∧ ∀ ch ∈ rest.head?, isBlank ch = false)
    (noBreak : ∀ ch ∈ rest.head?, isBreak ch = false) :
    ∃ led c', blockLines false n (steps + 1) blk c =
        blockLines false n steps
          { done := blk.done ++ (blk.first ++ blk.more) ++ line, first := [b], more := bs, blankLed := led } c' ∧
      c'.rest = rest ∧ c'.column = k := by
  obtain ⟨isBreak, printable⟩ := stands b List.mem_cons_self
  have taken : c.rest.takeWhile (fun ch => true && !Yaml.isBreak ch) = line := by
    rw [eq, List.takeWhile_append_of_pos (by simpa using noBreaks)]
    simp [isBreak]
  have rest₁ : (c.skip line.length).rest = b :: (bs ++ (List.replicate k ' ' ++ rest)) := by
    rw [rest_skip, eq, List.drop_left]
  obtain ⟨widest, c', empty, ends⟩ := emptyLines_reads (c := (c.skip line.length).nextLine 1) 0 []
    (fun b' member => stands b' (List.mem_cons_of_mem _ member))
    (by simp [Cursor.nextLine, rest₁]) rfl fits noBreak (Nat.le_refl _)
  have more : (decide (c.column = n) && !c.rest.isEmpty) = true := by
    simp [column, eq]
  refine ⟨c.seesBlank, c', ?_, ends⟩
  rw [blockLines, if_pos more]
  simp only [Cursor.span, taken, takeBreak_eq rest₁ isBreak printable, empty, bind, Except.bind, Block.join,
    Bool.false_and, Bool.false_eq_true, if_false, List.nil_append]

/-- The lines of a literal block. -/
theorem blockLines_reads {b : Char} (blk : Block) (lines : Lines body)
    (printable : ∀ ch ∈ body, isPrintable ch = true) (stands : AllBreaks (b :: bs))
    (eq : c.rest = movedIn n false body ++ b :: (bs ++ (List.replicate k ' ' ++ tail)))
    (column : c.column = n) (less : k < n) (follows : Follows k tail) (enough : body.length ≤ steps) :
    ∃ led c', blockLines false n steps blk c =
        .ok ({ done := blk.done ++ (blk.first ++ blk.more) ++ body, first := [b], more := bs, blankLed := led }, c') ∧
      c'.rest = tail ∧ c'.column = k := by
  induction lines generalizing c blk steps with
  | @last line some noBreaks =>
    have pos := List.length_pos_iff.2 some
    obtain ⟨steps, rfl⟩ := Nat.exists_eq_succ_of_ne_zero (by omega : steps ≠ 0)
    rw [← List.append_nil line, movedIn_line noBreaks, movedIn, List.append_nil] at eq
    obtain ⟨led, c', read, ends⟩ := blockLines_line steps blk noBreaks stands eq column
      (Or.inr ⟨less, fun ch first => (follows.startsSolid ch first).1⟩)
      (fun ch first => (follows.startsSolid ch first).2)
    refine ⟨led, c', ?_, ends⟩
    rw [read, blockLines_stop false steps _ (by omega)]
  | @more line body b' bs' some noBreaks breaks lines ih =>
    have pos := List.length_pos_iff.2 some
    obtain ⟨steps, rfl⟩ := Nat.exists_eq_succ_of_ne_zero (by simp at enough; omega : steps ≠ 0)
    have stands' : AllBreaks (b' :: bs') := fun d member =>
      ⟨breaks d member, printable d (List.mem_append_left _ (List.mem_append_right _ member))⟩
    obtain ⟨ch, more, rfl, noBreak⟩ := lines.begins
    have head : movedIn n false (b' :: bs' ++ ch :: more) = b' :: movedIn n true (bs' ++ ch :: more) := by
      simp [movedIn, breaks b' List.mem_cons_self]
    rw [List.append_assoc, movedIn_line noBreaks, head,
      movedIn_breaks fun d member => breaks d (List.mem_cons_of_mem _ member), movedIn_after noBreak,
      List.append_assoc, List.cons_append, List.append_assoc, List.append_assoc] at eq
    have first : ∀ d ∈ (movedIn n false (ch :: more) ++ b :: (bs ++ (List.replicate k ' ' ++ tail))).head?,
        isBreak d = false := by
      simp [movedIn, noBreak]
    obtain ⟨led, c₁, read, rest₁, column₁⟩ := blockLines_line steps blk noBreaks stands' eq column (Or.inl rfl) first
    have enough' : (ch :: more).length ≤ steps := by
      simp at enough ⊢
      omega
    obtain ⟨led', c', reads, ends⟩ :=
      ih _ (fun d member => printable d (List.mem_append_right _ member)) rest₁ column₁ enough'
    refine ⟨led', c', ?_, ends⟩
    rw [read, reads]
    simp

/-- The mark of a chomping. -/
def Chomping.mark : Chomping → List Char
  | .strip => ['-']
  | .clip => []
  | .keep => ['+']

/-- The marks of a literal block, with the width where it is marked. -/
theorem blockMarks_reads (marked : Bool) (chomping : Chomping)
    (eq : c.rest = (if marked then ['2'] else []) ++ chomping.mark ++ '\n' :: rest) :
    blockMarks c = .ok (chomping, if marked then some 2 else none,
      c.skip ((if marked then 1 else 0) + chomping.mark.length)) := by
  obtain ⟨text, index, line, column⟩ := c
  subst eq
  cases marked <;> cases chomping <;>
    simp [blockMarks, chomping?, indentation?, Chomping.mark, Cursor.sees, Cursor.head?, Cursor.skip,
      bind, Except.bind, pure, Except.pure]

theorem passLineEnd_break (context : Context) (eq : c.rest = '\n' :: rest) :
    c.passLineEnd context = .ok (c.nextLine 1) := by
  have passed : c.pass isBlank = c := by simp [Cursor.pass, Cursor.span, eq, isBlank, skip_zero]
  have sees : c.seesBreak = true := by simp [Cursor.seesBreak, eq, isBreak]
  have noHash : c.sees '#' = false := by simp [Cursor.sees, eq]
  rw [Cursor.passLineEnd]
  simp only [passed, noHash, sees, Bool.false_eq_true, if_false, if_true,
    takeBreak_eq eq (by decide) (by decide)]

end Content

/-! ## Literal blocks -/

section

variable {n k outer : Nat} {s body trail rest : List Char}

open Content (Chomping)

/-- What becomes of the breaks at the end of a text that has more than them. -/
def chompingOf : List Char → Chomping
  | [] => .strip
  | [_] => .clip
  | _ => .keep

theorem chompingMark_breaks (some : s ≠ []) (breaks : ∀ ch ∈ s, isBreak ch = true) :
    Printer.chompingMark s = Chomping.keep.mark := by
  obtain ⟨before, ch, rfl⟩ := List.eq_nil_or_concat s |>.resolve_left some
  have last := breaks ch (by simp)
  have earlier : before.reverse.head?.all isBreak = true := by
    rw [Option.all_eq_true]
    intro d first
    exact breaks d (by
      rw [List.concat_eq_append]
      exact List.mem_append_left _ (List.mem_reverse.1 (List.mem_of_head? first)))
  simp [Printer.chompingMark, Chomping.mark, last] at earlier ⊢
  exact earlier

theorem chompingMark_lines (lead : List Char) (lines : Lines body) (breaks : ∀ ch ∈ trail, isBreak ch = true) :
    Printer.chompingMark (lead ++ (body ++ trail)) = (chompingOf trail).mark := by
  obtain ⟨before, ch, rfl, noBreak⟩ := lines.ends
  rcases List.eq_nil_or_concat trail with rfl | ⟨trail, last, rfl⟩
  · simp [Printer.chompingMark, Chomping.mark, chompingOf, noBreak]
  · have isBreak := breaks last (by simp)
    rcases List.eq_nil_or_concat trail with rfl | ⟨trail, d, rfl⟩
    · simp [Printer.chompingMark, Chomping.mark, chompingOf, noBreak, isBreak]
    · have isBreak' := breaks d (by simp)
      have keeps : chompingOf ((trail.concat d).concat last) = .keep := by
        rcases trail with _ | ⟨e, _ | ⟨e', trail⟩⟩ <;> rfl
      rw [keeps]
      simp [Printer.chompingMark, Chomping.mark, isBreak, isBreak']

/-- Breaks behind some lines stay where they are. -/
theorem movedIn_trail (afterBreak : Bool) (s : List Char) (breaks : ∀ ch ∈ trail, isBreak ch = true) :
    movedIn n afterBreak (s ++ trail) = movedIn n afterBreak s ++ trail := by
  induction s generalizing afterBreak with
  | nil =>
    cases trail with
    | nil => rfl
    | cons b trail =>
      have rest := movedIn_breaks (n := n) (s := []) fun ch member => breaks ch (List.mem_cons_of_mem b member)
      rw [List.append_nil] at rest
      simp [movedIn, breaks b List.mem_cons_self, rest]
  | cons ch s ih =>
    simp only [List.cons_append, movedIn, ih]
    split <;> simp

theorem movedIn_last (afterBreak : Bool) (s : List Char) {ch : Char} (noBreak : isBreak ch = false) :
    ∃ before, movedIn n afterBreak (s ++ [ch]) = before ++ [ch] := by
  induction s generalizing afterBreak with
  | nil => exact ⟨if afterBreak then List.replicate n ' ' else [], by simp [movedIn, noBreak]⟩
  | cons d s ih =>
    rw [List.cons_append, movedIn]
    split
    · obtain ⟨before, eq⟩ := ih true
      exact ⟨d :: before, by rw [eq, List.cons_append]⟩
    · obtain ⟨before, eq⟩ := ih false
      exact ⟨(if afterBreak then List.replicate n ' ' else []) ++ d :: before, by rw [eq]; simp⟩

/-- The breaks at the end of a literal block with such breaks at the end of its text. -/
def closing : List Char → List Char
  | [] => ['\n']
  | trail => trail

/-- Whether the width of a literal block is marked. -/
def isMarked (s : List Char) : Bool := s.head?.any fun ch => ch = ' ' || isBreak ch

theorem endLine_append (before : List Char) (some : s ≠ []) :
    Printer.endLine (before ++ s) = before ++ Printer.endLine s := by
  rw [Printer.endLine, Printer.endLine, List.getLast?_append_of_ne_nil _ some]
  split <;> simp

/-- The end of the last line that has anything on it. -/
theorem endLine_trail (before : List Char) {ch : Char} (noBreak : isBreak ch = false)
    (trails : ∀ b ∈ trail, isBreak b = true) :
    Printer.endLine (before ++ [ch] ++ trail) = before ++ [ch] ++ closing trail := by
  rcases List.eq_nil_or_concat trail with rfl | ⟨trail', b, rfl⟩
  · simp [Printer.endLine, closing, noBreak]
  · have last := trails b (by simp)
    have closes : closing (trail'.concat b) = trail'.concat b := by cases trail' <;> rfl
    rw [closes, List.concat_eq_append, ← List.append_assoc]
    exact if_pos (by rw [List.getLast?_concat]; exact last)

/-- A literal block from its marks on. -/
theorem endLine_literal (some : movedIn n true s ≠ []) :
    Printer.endLine (Printer.literal n s) =
      '|' :: ((if isMarked s then ['2'] else []) ++ Printer.chompingMark s ++
        '\n' :: Printer.endLine (movedIn n true s)) := by
  rw [Printer.literal, endLine_append _ some]
  simp only [List.append_assoc, List.cons_append, List.nil_append]
  rfl

theorem endLine_breaks (some : s ≠ []) (breaks : ∀ ch ∈ s, isBreak ch = true) :
    Printer.endLine (Printer.literal n s) =
      '|' :: ((if isMarked s then ['2'] else []) ++ Chomping.keep.mark ++ '\n' :: s) := by
  have moved := movedIn_trail (n := n) true [] breaks
  rw [List.nil_append, movedIn, List.nil_append] at moved
  rw [endLine_literal (by rwa [moved]), moved, chompingMark_breaks some breaks]
  obtain ⟨before, ch, rfl⟩ := List.eq_nil_or_concat s |>.resolve_left some
  have last := breaks ch (by simp)
  simp [Printer.endLine, last]

theorem endLine_lines {lead : List Char} (leads : ∀ ch ∈ lead, isBreak ch = true) (lines : Lines body)
    (trails : ∀ ch ∈ trail, isBreak ch = true) :
    Printer.endLine (Printer.literal n (lead ++ (body ++ trail))) =
      '|' :: ((if isMarked (lead ++ (body ++ trail)) then ['2'] else []) ++ (chompingOf trail).mark ++
        '\n' :: (lead ++ (List.replicate n ' ' ++ (movedIn n false body ++ closing trail)))) := by
  obtain ⟨first, more, starts, noBreak⟩ := lines.begins
  have moved : movedIn n true (lead ++ (body ++ trail)) =
      lead ++ (List.replicate n ' ' ++ (movedIn n false body ++ trail)) := by
    rw [movedIn_breaks leads, movedIn_trail true body trails, starts, movedIn_after noBreak, List.append_assoc]
  obtain ⟨before, last, ends, noBreak⟩ := lines.ends
  obtain ⟨before', ends'⟩ := movedIn_last (n := n) false before noBreak
  rw [← ends] at ends'
  rw [endLine_literal (by simp [moved, ends']), moved, chompingMark_lines lead lines trails,
    endLine_append lead (by simp [ends']), endLine_append _ (by simp [ends']), ends',
    endLine_trail before' noBreak trails]

/-- What a chomping leaves of the breaks at the end. -/
def Content.Chomping.left (chomping : Chomping) (b : Content.Block) : List Char :=
  match chomping with
  | .strip => []
  | .clip => b.first
  | .keep => b.first ++ b.more

/-- A literal block whose lines are moved in by two columns. -/
theorem block_eq {marked : Bool} {chomping : Chomping} (outer : Nat)
    (eq : c.rest = (if marked then ['2'] else []) ++ chomping.mark ++ '\n' :: rest) :
    ∃ c₁ : Cursor, c₁.rest = rest ∧ c₁.column = 0 ∧
      ∀ {more : List Char} {widest : Nat} {c₂ c₃ : Cursor} {b : Content.Block},
        Content.emptyLines (if marked then some (outer + 2) else none) rest.length [] 0 c₁ =
          .ok (more, widest, c₂) →
        (marked = false → widest = outer + 2) →
        Content.blockLines false (outer + 2) (rest.length + 1)
          { done := [], first := [], more, blankLed := false } c₂ = .ok (b, c₃) →
        Content.block false outer c = .ok (b.done ++ chomping.left b, c₃) := by
  have marks := Content.blockMarks_reads marked chomping eq
  have passed : (c.skip ((if marked then 1 else 0) + chomping.mark.length)).rest = '\n' :: rest := by
    rw [rest_skip, eq]
    exact List.drop_left' (by cases marked <;> simp [Nat.add_comm])
  generalize c.skip ((if marked then 1 else 0) + chomping.mark.length) = c₀ at marks passed
  refine ⟨c₀.nextLine 1, by simp [Cursor.nextLine, passed], rfl, ?_⟩
  intro more widest c₂ c₃ b empty width lines
  have length : (c₀.nextLine 1).rest.length = rest.length := by simp [Cursor.nextLine, passed]
  have given : (if marked then some 2 else none).map (fun n => n + (outer : Int).toNat) =
      if marked then some (outer + 2) else none := by
    cases marked <;> simp [Nat.add_comm]
  have indent : (if marked then some (outer + 2) else none).getD
      (max (max widest ((outer : Int) + 1).toNat) 1) = outer + 2 := by
    cases marked with
    | true => rfl
    | false =>
      rw [width rfl]
      simp
  simp only [Content.block, marks, bind, Except.bind, Content.passLineEnd_break _ passed, length, given,
    empty, indent, lines]
  rfl

/-- The spaces of the first line give the indentation. -/
theorem emptyLines_first {steps : Nat} (eq : c.rest = List.replicate n ' ' ++ rest) (start : c.column = 0)
    (solid : StartsSolid rest) (some : rest ≠ []) (enough : c.rest.length ≤ steps) :
    Content.emptyLines none steps [] 0 c = .ok ([], n, c.skip n) := by
  obtain ⟨ch, more, rfl⟩ := List.exists_cons_of_ne_nil some
  obtain ⟨noBlank, noBreak⟩ := solid ch rfl
  obtain ⟨steps, rfl⟩ := Nat.exists_eq_succ_of_ne_zero (by simp [eq] at enough; omega : steps ≠ 0)
  simp only [isBlank, Bool.or_eq_false_iff, decide_eq_false_iff_not] at noBlank
  have spaces : ((c.rest.take c.rest.length).takeWhile (· = ' ')).length = n := by
    rw [List.take_length, eq, List.takeWhile_append_of_pos (by simp)]
    simp [noBlank.1]
  have passed : (c.skip n).rest = ch :: more := by
    rw [rest_skip, eq, List.drop_left' List.length_replicate]
  have column : (c.skip n).column = n := by simp [Cursor.skip, start]
  have noTab : (c.skip n).sees '\t' = false := by simp [Cursor.sees, passed, noBlank.2]
  have ends : (c.skip n).seesBreak = false := by simp [Cursor.seesBreak, passed, noBreak]
  rw [Content.emptyLines]
  simp only [spaces, column, noTab, ends, Bool.and_false, Bool.false_eq_true, if_false, Nat.zero_max]

/-- The breaks in front of the first line, whether the width is marked or not. -/
theorem emptyLines_lead {lead : List Char} {marked : Bool}
    (printable : ∀ ch ∈ lead ++ body, isPrintable ch = true)
    (leads : ∀ ch ∈ lead, isBreak ch = true) (lines : Lines body)
    (mark : isMarked (lead ++ (body ++ trail)) = marked)
    (eq : c.rest = lead ++ (List.replicate n ' ' ++ (movedIn n false body ++ rest))) (start : c.column = 0) :
    ∃ widest c', Content.emptyLines (if marked then some n else none) c.rest.length [] 0 c =
        .ok (lead, widest, c') ∧
      (marked = false → widest = n) ∧ c'.rest = movedIn n false body ++ rest ∧ c'.column = n := by
  obtain ⟨ch, more, rfl, noBreak⟩ := lines.begins
  have first : movedIn n false (ch :: more) = ch :: movedIn n false more := by simp [movedIn, noBreak]
  cases marked with
  | true =>
    obtain ⟨widest, c', empty, ends⟩ := Content.emptyLines_reads (n := n) 0 []
      (fun b member => ⟨leads b member, printable b (List.mem_append_left _ member)⟩) eq start (Or.inl rfl)
      (by simp [first, noBreak]) (Nat.le_refl _)
    exact ⟨widest, c', empty, by simp, ends⟩
  | false =>
    obtain rfl : lead = [] := by
      cases lead with
      | nil => rfl
      | cons b lead => simp [isMarked, leads b List.mem_cons_self] at mark
    have noSpace : isSpace ch = false := by simpa [isMarked, noBreak, isSpace] using mark
    have solid : IsSolid ch :=
      ⟨(isBlank_of_isPrintable (printable ch List.mem_cons_self)).trans noSpace, noBreak⟩
    refine ⟨n, c.skip n, emptyLines_first eq start ?_ (by simp [first]) (Nat.le_refl _), fun _ => rfl, ?_, ?_⟩
    · rw [first]
      rintro _ ⟨⟩
      exact solid
    · rw [rest_skip, eq, List.nil_append, List.drop_left' List.length_replicate]
    · simp [Cursor.skip, start]

theorem length_le_movedIn (afterBreak : Bool) (s : List Char) : s.length ≤ (movedIn n afterBreak s).length := by
  induction s generalizing afterBreak with
  | nil => exact Nat.zero_le _
  | cons ch s ih =>
    have le := ih true
    have le' := ih false
    rw [movedIn]
    split
    · simpa using le
    · simp
      omega

/-- A literal block is read back. -/
theorem block_literal (ne : s ≠ []) (printable : ∀ ch ∈ s, isPrintable ch = true)
    (eq : '|' :: c.rest = Printer.endLine (Printer.literal (outer + 2) s) ++ (List.replicate k ' ' ++ tail))
    (follows : Follows k tail) (less : k ≤ outer) :
    ∃ c', Content.block false outer c = .ok (s, c') ∧ c'.rest = tail ∧ c'.column = k := by
  have outside : k < outer + 2 := by omega
  have noBlank : ∀ ch ∈ tail.head?, isBlank ch = false := fun ch first => (follows.startsSolid ch first).1
  have noBreak : ∀ ch ∈ tail.head?, isBreak ch = false := fun ch first => (follows.startsSolid ch first).2
  rcases Lines.split s with breaks | ⟨lead, body, trail, rfl, leads, lines, trails⟩
  · -- nothing but breaks, which are empty lines
    have marked : isMarked s = true := by
      obtain ⟨b, bs, rfl⟩ := List.exists_cons_of_ne_nil ne
      simp [isMarked, breaks b List.mem_cons_self]
    rw [endLine_breaks ne breaks, marked, List.cons_append, List.append_assoc, List.cons_append] at eq
    obtain ⟨c₁, rest₁, start, reads⟩ := block_eq outer (List.cons.inj eq).2
    obtain ⟨widest, c', empty, ends⟩ := Content.emptyLines_reads (n := outer + 2) 0 []
      (fun b member => ⟨breaks b member, printable b member⟩) rest₁ start (Or.inr ⟨outside, noBlank⟩) noBreak
      (Nat.le_refl _)
    rw [rest₁] at empty
    exact ⟨c', reads empty (by simp) (Content.blockLines_stop false _ _ (by omega)), ends⟩
  · have printable' : ∀ ch ∈ lead ++ body, isPrintable ch = true := fun ch member =>
      printable ch (by rw [← List.append_assoc]; exact List.mem_append_left _ member)
    obtain ⟨b, bs, closes, stands⟩ : ∃ b bs, closing trail = b :: bs ∧ AllBreaks (b :: bs) := by
      cases trail with
      | nil => exact ⟨'\n', [], rfl, by simp [AllBreaks, isBreak, isPrintable]⟩
      | cons b bs =>
        exact ⟨b, bs, rfl, fun d member => ⟨trails d member,
          printable d (List.mem_append_right _ (List.mem_append_right _ member))⟩⟩
    rw [endLine_lines leads lines trails, closes] at eq
    simp only [List.cons_append, List.append_assoc] at eq
    obtain ⟨c₁, rest₁, start, reads⟩ :=
      block_eq outer ((List.cons.inj eq).2.trans (List.append_assoc _ _ _).symm)
    obtain ⟨widest, c₂, empty, width, rest₂, column⟩ :=
      emptyLines_lead printable' leads lines rfl rest₁ start
    have enough : body.length ≤ c₁.rest.length + 1 := by
      have le := length_le_movedIn (n := outer + 2) false body
      rw [rest₁]
      simp
      omega
    obtain ⟨led, c', block, ends⟩ := Content.blockLines_reads
      { done := [], first := [], more := lead, blankLed := false } lines
      (fun ch member => printable' ch (List.mem_append_right _ member)) stands rest₂ column outside follows
      enough
    rw [rest₁] at empty block
    refine ⟨c', (reads empty width block).trans ?_, ends⟩
    rcases trail with _ | ⟨b', _ | ⟨b'', trail⟩⟩
    · simp [Chomping.left, chompingOf]
    · obtain ⟨rfl, rfl⟩ := List.cons.inj closes
      simp [Chomping.left, chompingOf]
    · obtain ⟨rfl, rfl⟩ := List.cons.inj closes
      simp [Chomping.left, chompingOf]

end

end ResourceTree.Yaml
