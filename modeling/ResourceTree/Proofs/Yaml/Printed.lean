import ResourceTree.Proofs.Yaml.Marks

/-!
# Tokens of printed documents

A printed value is scanned as its tokens, one after the other, whatever lines follow it. So is the
document of a mapping, and nothing is left over.
-/

namespace ResourceTree.Yaml
set_option autoImplicit false

open Printer (isPrintable isSpace styleOf endLine)

/-! ## Tokens -/

/-- The tokens of an item of a sequence that is not moved in. -/
def itemTokens (x : String) : List Token := [.dash, .scalar (styleOf x) x]

mutual

/-- The tokens of a value after its key. -/
def Value.tokens : Value → List Token
  | .word x => [.scalar .plain x]
  | .text x => [.scalar (styleOf x) x]
  | .texts [] => [.openSequence, .closeSequence]
  | .texts xs => xs.flatMap itemTokens
  | .mapping [] => [.openMapping, .closeMapping]
  | .mapping ms => .blockMapping :: memberTokens ms ++ [.blockEnd]

/-- The tokens of the members of a mapping. -/
def memberTokens : List (String × Value) → List Token
  | [] => []
  | (k, v) :: rest => [.key, .scalar .plain k, .value] ++ v.tokens ++ memberTokens rest

end

mutual

/-- Values whose words are words and whose keys are keys. -/
def Value.Fits : Value → Prop
  | .word x => IsWord x.toList
  | .text _ | .texts _ => True
  | .mapping ms => MembersFit ms

def MembersFit : List (String × Value) → Prop
  | [] => True
  | (k, v) :: rest => Scan.IsKey k ∧ v.Fits ∧ MembersFit rest

end

/-! ## Places -/

/-- The spaces in front of a line are as many as it is moved in. -/
theorem Follows.unique {n n' : Nat} {tail tail' : List Char} (follows : Follows n tail) (follows' : Follows n' tail')
    (eq : List.replicate n ' ' ++ tail = List.replicate n' ' ' ++ tail') : n = n' ∧ tail = tail' := by
  have run (k : Nat) {tail : List Char} (follows : Follows k tail) :
      (List.replicate k ' ' ++ tail).takeWhile (· = ' ') = List.replicate k ' ' := by
    rw [List.takeWhile_append_of_pos (by simp)]
    cases tail with
    | nil => simp
    | cons d rest =>
      have noSpace : d ≠ ' ' := by
        rintro rfl
        exact absurd (follows.2 ' ' rfl) (by decide)
      simp [noSpace]
  have same := congrArg (List.takeWhile (· = ' ')) eq
  rw [run n follows, run n' follows'] at same
  obtain rfl : n = n' := by simpa using congrArg List.length same
  exact ⟨rfl, List.append_cancel_left eq⟩

namespace Blocks

variable {column : Int} {b : Blocks}

theorem opened_of_eq (eq : b.indent = column) : b.opened column = b :=
  if_neg (by rw [eq]; exact Int.lt_irrefl _)

theorem indent_opened (le : b.indent ≤ column) : (b.opened column).indent = column := by
  rw [opened]
  split
  · rfl
  · next notLess => exact Int.le_antisymm le (Int.not_lt.1 notLess)

end Blocks

namespace Scan

variable {s : Scan} {allowed : Bool} {text : List Char} {column i : Nat} {b : Blocks}

theorem At.comes_space (here : At s allowed (' ' :: text) column b) (clear : Clear text)
    (le : b.indent ≤ column) : Comes s allowed text (column + 1) b :=
  At.comes_blanks (n := 1) here clear (by omega)

theorem clear_plain {cs : List Char} (part : PlainPart none cs) (begins : ∃ ch ∈ cs.head?, isSpace ch = false) :
    Clear (cs ++ text) := by
  obtain ⟨ch, first, noSpace⟩ := begins
  obtain ⟨more, rfl⟩ : ∃ more, cs = ch :: more := ⟨cs.tail, (List.cons_head?_tail first).symm⟩
  rintro _ ⟨⟩
  refine ⟨part.solid noSpace, ?_, ?_⟩
  · rintro rfl
    have structureless := part.noStructure
    rw [Printer.hasStructure, Bool.or_eq_false_iff] at structureless
    exact absurd structureless.1 (by simp [Printer.marksStructure, Printer.isIndicator])
  · rintro rfl
    exact absurd (part.printable _ List.mem_cons_self) (by decide)

/-- A scalar begins with no gap. -/
theorem clear_scalar (n : Nat) (x : String) : Clear (endLine (Printer.scalar n x) ++ text) := by
  have ended (cs : List Char) : ∃ more, endLine cs = cs ++ more := by
    rw [endLine]
    split
    · exact ⟨[], (List.append_nil cs).symm⟩
    · exact ⟨['\n'], rfl⟩
  obtain ⟨more, eq⟩ := ended (Printer.scalar n x)
  rw [eq, List.append_assoc, Printer.scalar]
  have fits := fitsStyle x
  cases style : styleOf x <;> rw [style] at fits <;> cases fits
  case plain part begins => exact clear_plain part begins
  all_goals
    rintro _ ⟨⟩
    exact ⟨⟨by decide, by decide⟩, by decide, by decide⟩

/-- A line that begins with a name. -/
theorem AtLine.comes {ch : Char} {more : List Char} (line : AtLine s (List.replicate i ' ' ++ ch :: more) b)
    (name : isNameChar ch = true) : Comes s true (ch :: more) i (b.closed i) := by
  obtain ⟨n, tail, eq, follows, comes⟩ := line
  have named : Follows i (ch :: more) := ⟨fun empty => (nomatch empty), by rintro _ ⟨⟩; exact name⟩
  obtain ⟨rfl, rfl⟩ := named.unique follows eq
  exact comes

/-- Brackets with nothing between them, to the end of their line. -/
theorem Brackets.run {o e : Char} {opening ending : Token} (brackets : Brackets o opening e ending)
    (here : At s false (' ' :: o :: e :: '\n' :: text) column b) (le : b.indent ≤ column) (starts : Starts i text) :
    ∃ t, Reaches s t ∧ AtLine t text (b.emits [opening, ending]) := by
  have clear : Clear (o :: e :: '\n' :: text) := by
    cases brackets <;> rintro _ ⟨⟩ <;> exact ⟨⟨by decide, by decide⟩, by decide, by decide⟩
  obtain ⟨t, reaches, there⟩ := Comes.brackets brackets (here.comes_space clear le) (Nat.succ_ne_zero column)
  exact ⟨t, reaches, there.atLine starts⟩

theorem starts_items (xs : List String) (starts : Starts i text) : Starts i (Printer.items i xs ++ text) := by
  cases xs with
  | nil => exact starts
  | cons x xs =>
    refine ⟨i, _, by rw [Printer.items, List.flatMap_cons, List.append_assoc, List.append_assoc,
      List.append_assoc], ⟨fun empty => ?_, ?_⟩, Nat.le_refl i⟩
    · simp at empty
    · rintro _ ⟨⟩
      decide

theorem items_run (xs : List String) (line : AtLine s (Printer.items i xs ++ text) b) (indent : b.indent = i)
    (starts : Starts i text) :
    ∃ t, Reaches s t ∧ AtLine t text (b.emits (xs.flatMap itemTokens)) := by
  induction xs generalizing s b with
  | nil =>
    refine ⟨s, Reaches.refl s, ?_⟩
    rwa [List.flatMap_nil, Blocks.emits, List.append_nil]
  | cons x xs ih =>
    have printed : Printer.items i (x :: xs) ++ text = List.replicate i ' ' ++
        '-' :: ' ' :: (endLine (Printer.scalar (i + 2) x) ++ (Printer.items i xs ++ text)) := by
      simp [Printer.items]
    rw [printed] at line
    have comes := line.comes (by decide)
    rw [Blocks.closed_of_le (Int.le_of_eq indent)] at comes
    obtain ⟨t₁, reaches₁, there₁⟩ := comes.dash indent
    have comes₁ := there₁.comes_space (clear_scalar _ _) (by rw [Blocks.emits, indent]; omega)
    obtain ⟨t₂, reaches₂, line₂⟩ := comes₁.scalar indent (by omega) (starts_items xs starts)
    obtain ⟨t₃, reaches₃, line₃⟩ := ih line₂ indent
    refine ⟨t₃, (reaches₁.trans reaches₂).trans reaches₃, ?_⟩
    simpa [itemTokens] using line₃

theorem IsKey.begins {k : String} (key : IsKey k) : ∃ ch more, k.toList = ch :: more ∧ isNameChar ch = true := by
  obtain ⟨ch, more, chars⟩ := List.exists_cons_of_ne_nil key.some
  have letter := key.chars ch (by rw [chars]; exact List.mem_cons_self)
  exact ⟨ch, more, chars, by simp [isNameChar, letter]⟩

theorem starts_members (ms : List (String × Value)) (fits : MembersFit ms) (starts : Starts i text) :
    Starts i (Printer.members i ms ++ text) := by
  cases ms with
  | nil => exact starts
  | cons m ms =>
    obtain ⟨k, v⟩ := m
    obtain ⟨ch, more, chars, name⟩ := fits.1.begins
    refine ⟨i, k.toList ++ ':' :: (Printer.value i v ++ (Printer.members i ms ++ text)), by simp [Printer.members],
      ⟨fun empty => ?_, ?_⟩, Nat.le_refl i⟩
    · simp at empty
    · rw [chars]
      rintro _ ⟨⟩
      exact name

/-- A value begins with a gap behind its colon. -/
theorem gap_value (v : Value) : ∀ after ∈ (Printer.value i v ++ text).head?,
    (isBlank after || isBreak after) = true := by
  cases v with
  | word x => rintro _ ⟨⟩; decide
  | text x => rintro _ ⟨⟩; decide
  | texts xs => cases xs <;> rintro _ ⟨⟩ <;> decide
  | mapping ms => cases ms <;> rintro _ ⟨⟩ <;> decide

/-- Closing a mapping that has been opened for a value. -/
theorem AtLine.close {bound j : Nat} {ts : List Token} (line : AtLine s text ((b.opened j).emits ts))
    (starts : Starts bound text) (le : (bound : Int) ≤ b.indent) (less : b.indent < j) :
    AtLine s text (b.emits (.blockMapping :: ts ++ [.blockEnd])) := by
  obtain ⟨n, tail, rfl, follows, comes⟩ := line
  refine ⟨n, tail, rfl, follows, ?_⟩
  have near : (n : Int) < j := by
    obtain ⟨n', tail', eq, follows', le'⟩ := starts
    obtain ⟨rfl, -⟩ := follows.unique follows' eq
    omega
  have opened : b.opened j =
      { indent := j, outer := b.indent :: b.outer, out := b.out ++ [.blockMapping] } := if_pos less
  rw [opened, Blocks.closed_of_lt (b := Blocks.emits _ _) rfl near] at comes
  simpa [Blocks.emits, List.append_assoc] using comes

mutual

/-- A value after its key. -/
theorem value_run (v : Value) {s : Scan} {text : List Char} {column i : Nat} {b : Blocks} (fits : v.Fits)
    (here : At s false (Printer.value i v ++ text) column b) (indent : b.indent = i) (far : i < column)
    (starts : Starts i text) :
    ∃ t, Reaches s t ∧ AtLine t text (b.emits v.tokens) := by
  have le : b.indent ≤ column := by rw [indent]; omega
  cases v with
  | word x =>
    rw [Printer.value, List.append_assoc, List.singleton_append, List.cons_append] at here
    have comes := here.comes_space (clear_plain fits.plainPart fits.begins) le
    exact comes.word fits indent (by omega) starts
  | text x =>
    rw [Printer.value, List.cons_append] at here
    have comes := here.comes_space (clear_scalar _ _) le
    exact comes.scalar indent (by omega) starts
  | texts xs =>
    cases xs with
    | nil =>
      exact Brackets.sequence.run here le starts
    | cons x xs =>
      have line : AtLine s (Printer.items i (x :: xs) ++ text) b :=
        At.atLine here (starts_items _ starts)
      exact items_run (x :: xs) line indent starts
  | mapping ms =>
    cases ms with
    | nil =>
      exact Brackets.mapping.run here le starts
    | cons m ms =>
      have starts' : Starts (i + 2) text := by
        obtain ⟨n, tail, eq, follows, le⟩ := starts
        exact ⟨n, tail, eq, follows, by omega⟩
      have line : AtLine s (Printer.members (i + 2) (m :: ms) ++ text) b :=
        At.atLine here (starts_members (m :: ms) fits starts')
      obtain ⟨t, reaches, line'⟩ := members_run (m :: ms) (List.cons_ne_nil _ _) fits line (by omega) starts'
      exact ⟨t, reaches, line'.close starts (Int.le_of_eq indent.symm) (by omega)⟩

/-- The members of a mapping, which the first of them may open. -/
theorem members_run (ms : List (String × Value)) {s : Scan} {text : List Char} {i : Nat} {b : Blocks}
    (some : ms ≠ []) (fits : MembersFit ms) (line : AtLine s (Printer.members i ms ++ text) b)
    (indent : b.indent ≤ i) (starts : Starts i text) :
    ∃ t, Reaches s t ∧ AtLine t text ((b.opened i).emits (memberTokens ms)) := by
  match ms with
  | [] => exact absurd rfl some
  | (k, v) :: rest =>
    obtain ⟨key, fitsValue, fitsRest⟩ := fits
    obtain ⟨ch, more, chars, name⟩ := key.begins
    have printed : Printer.members i ((k, v) :: rest) ++ text =
        List.replicate i ' ' ++ ch :: (more ++ ':' :: (Printer.value i v ++ (Printer.members i rest ++ text))) := by
      simp [Printer.members, chars]
    rw [printed] at line
    have comes := line.comes name
    rw [Blocks.closed_of_le indent, ← List.cons_append, ← chars] at comes
    have starts' := starts_members rest fitsRest starts
    obtain ⟨t₁, reaches₁, there₁⟩ := comes.key key (gap_value v) indent
    have inner := Blocks.indent_opened indent
    obtain ⟨t₂, reaches₂, line₂⟩ := value_run v fitsValue there₁ inner (by omega) starts'
    rw [Blocks.emits_emits] at line₂
    match rest with
    | [] => exact ⟨t₂, reaches₁.trans reaches₂, by simpa [memberTokens, Printer.members] using line₂⟩
    | m :: ms =>
      obtain ⟨t₃, reaches₃, line₃⟩ := members_run (m :: ms) (List.cons_ne_nil m ms) fitsRest line₂
        (Int.le_of_eq inner) starts
      refine ⟨t₃, (reaches₁.trans reaches₂).trans reaches₃, ?_⟩
      rw [Blocks.opened_of_eq (b := Blocks.emits _ _) inner, Blocks.emits_emits] at line₃
      rwa [memberTokens]

end

end Scan

end ResourceTree.Yaml
