import Mathlib.Data.List.Chain
import ResourceTree.Yaml.Content
import ResourceTree.Yaml.Printer

/-!
# Gaps between the parts of a scalar

The lines of a printed scalar are cut at the three breaks that are printable, each of which stands for
itself. What follows the scalar is a new line that begins with some spaces.
-/

namespace ResourceTree.Yaml
set_option autoImplicit false

open Printer (isPrintable isSpace hasPair movedIn)

variable {c : Cursor} {cs rest tail : List Char}

/-! ## Characters -/

/-- Neither a blank nor a break. -/
def IsSolid (ch : Char) : Prop := isBlank ch = false ∧ isBreak ch = false

theorem isBlank_of_isPrintable {ch : Char} (printable : isPrintable ch = true) :
    isBlank ch = isSpace ch := by
  have noTab : ch ≠ '\t' := by
    rintro rfl
    exact absurd printable (by decide)
  simp [isBlank, isSpace, noTab]

theorem isBreak_space : isBreak ' ' = false := by decide

theorem isBlank_of_isBreak {b : Char} (break' : isBreak b = true) : isBlank b = false := by
  simp only [isBreak, Bool.or_eq_true, decide_eq_true_eq] at break'
  rcases break' with (((rfl | rfl) | rfl) | rfl) | rfl <;> rfl

/-- What follows a scalar on its next line, behind the spaces: nothing, or a letter, digit or dash. -/
def Follows (column : Nat) (tail : List Char) : Prop :=
  (tail = [] → column = 0) ∧ ∀ ch ∈ tail.head?, isNameChar ch = true

theorem isSolid_of_isNameChar {ch : Char} (name : isNameChar ch = true) : IsSolid ch := by
  have other (d : Char) (noName : isNameChar d = false) : ch ≠ d := by
    rintro rfl
    rw [name] at noName
    exact nomatch noName
  simp [IsSolid, isBlank, isBreak, other ' ' (by decide), other '\t' (by decide),
    other '\n' (by decide), other '\r' (by decide), other '\u0085' (by decide),
    other '\u2028' (by decide), other '\u2029' (by decide)]

/-! ## Moves -/

theorem rest_skip (c : Cursor) (n : Nat) : (c.skip n).rest = c.rest.drop n := rfl

theorem skip_zero (c : Cursor) : c.skip 0 = c := rfl

theorem skip_skip (c : Cursor) (n k : Nat) : (c.skip n).skip k = c.skip (n + k) := by
  simp [Cursor.skip, Nat.add_assoc]

/-- Inside a line no document begins or ends. -/
theorem not_seesDocumentMark (mark : Char) (inside : c.column ≠ 0) :
    c.seesDocumentMark mark = false := by
  simp [Cursor.seesDocumentMark, inside]

/-- A printable break stands for itself. -/
theorem takeBreak_eq {b : Char} (eq : c.rest = b :: rest) (isBreak : isBreak b = true)
    (printable : isPrintable b = true) : c.takeBreak = ([b], c.nextLine 1) := by
  have noReturn : b ≠ '\r' := by
    rintro rfl
    exact absurd printable (by decide)
  have noNext : b ≠ '\u0085' := by
    rintro rfl
    exact absurd printable (by decide)
  rw [Cursor.takeBreak, eq]
  split
  · next same => exact absurd (List.cons.inj same).1 noReturn
  · next same =>
    obtain ⟨rfl, rfl⟩ := List.cons.inj same
    split
    · rfl
    · next other =>
      have feed : b = '\n' := by
        rw [not_or] at other
        simpa [Yaml.isBreak, noReturn, noNext, other] using isBreak
      rw [feed]
  · next same => exact nomatch same

/-! ## Gaps -/

/-- Nothing more is blank, at the end or at a solid character. -/
def StartsSolid (cs : List Char) : Prop := ∀ ch ∈ cs.head?, IsSolid ch

/-- Breaks that stand for themselves. -/
def AllBreaks (bs : List Char) : Prop := ∀ b ∈ bs, isBreak b = true ∧ isPrintable b = true

theorem Follows.startsSolid {column : Nat} (follows : Follows column tail) : StartsSolid tail :=
  fun ch first => isSolid_of_isNameChar (follows.2 ch first)

namespace Gap

variable {tabs : Nat → Bool} {steps n : Nat} {g : Gap}

/-- In front of something solid there is no gap. -/
theorem take_solid (solid : StartsSolid c.rest) (tabs : Nat → Bool) (steps : Nat) (g : Gap) :
    take tabs steps g c = .ok (g, c) := by
  cases steps with
  | zero => rfl
  | succ steps =>
    rw [take]
    split
    · next ch rest eq =>
      obtain ⟨noBlank, noBreak⟩ := solid ch (by rw [eq]; rfl)
      rw [if_neg (by simp [noBlank]), if_neg (by simp [noBreak])]
    · rfl

/-- Spaces in front of a solid character. -/
theorem take_spaces (eq : c.rest = List.replicate n ' ' ++ tail) (solid : StartsSolid tail)
    (enough : n ≤ steps) (first : g.first = none) :
    take tabs steps g c = .ok ({ g with blanks := g.blanks ++ List.replicate n ' ' }, c.skip n) := by
  induction n generalizing c g steps with
  | zero =>
    rw [take_solid (by rw [eq]; exact solid)]
    simp [Cursor.skip]
  | succ n ih =>
    obtain ⟨steps, rfl⟩ := Nat.exists_eq_succ_of_ne_zero (by omega : steps ≠ 0)
    rw [List.replicate_succ, List.cons_append] at eq
    rw [take, eq]
    simp only [show isBlank ' ' = true by decide, first, Option.isSome_none, if_true,
      Bool.false_eq_true, if_false]
    rw [ih (by rw [rest_skip, eq, List.drop_succ_cons, List.drop_zero]) (by omega) rfl, skip_skip,
      Nat.add_comm 1 n, List.append_assoc, List.singleton_append, ← List.replicate_succ]

/-- Spaces at the beginning of a line. -/
theorem take_indentation (eq : c.rest = List.replicate n ' ' ++ tail) (solid : StartsSolid tail)
    (enough : n ≤ steps) (first : g.first.isSome = true) : take tabs steps g c = .ok (g, c.skip n) := by
  induction n generalizing c steps with
  | zero =>
    rw [take_solid (by rw [eq]; exact solid)]
    simp [Cursor.skip]
  | succ n ih =>
    obtain ⟨steps, rfl⟩ := Nat.exists_eq_succ_of_ne_zero (by omega : steps ≠ 0)
    rw [List.replicate_succ, List.cons_append] at eq
    rw [take, eq]
    simp only [show isBlank ' ' = true by decide, first, if_true,
      show (' ' = '\t') = False by decide, decide_false, Bool.false_and, Bool.false_eq_true, if_false]
    rw [ih (by rw [rest_skip, eq, List.drop_succ_cons, List.drop_zero]) (by omega), skip_skip,
      Nat.add_comm 1 n]

/-- Empty lines after the first break, and the spaces of the next line. -/
theorem take_emptyLines {bs : List Char} (breaks : AllBreaks bs)
    (eq : c.rest = bs ++ (List.replicate n ' ' ++ tail)) (solid : StartsSolid tail)
    (enough : bs.length + n ≤ steps) (first : g.first.isSome = true) (start : c.column = 0) :
    ∃ c', take tabs steps g c = .ok ({ g with more := g.more ++ bs }, c') ∧ c'.rest = tail ∧
      c'.column = n ∧ c.line ≤ c'.line := by
  induction bs generalizing c g steps with
  | nil =>
    refine ⟨c.skip n, ?_, ?_, by simp [Cursor.skip, start], by simp [Cursor.skip]⟩
    · rw [take_indentation eq solid (by simpa using enough) first, List.append_nil]
    · rw [rest_skip, eq, List.nil_append, List.drop_left' List.length_replicate]
  | cons b bs ih =>
    obtain ⟨isBreak, printable⟩ := breaks b List.mem_cons_self
    obtain ⟨steps, rfl⟩ := Nat.exists_eq_succ_of_ne_zero (by simp at enough; omega : steps ≠ 0)
    obtain ⟨place, found⟩ := Option.isSome_iff_exists.1 first
    have less : bs.length + n ≤ steps := by
      simp only [List.length_cons] at enough
      omega
    obtain ⟨c', read, ends⟩ := ih (c := c.nextLine 1) (g := { g with more := g.more ++ [b] })
      (fun b member => breaks b (List.mem_cons_of_mem _ member)) (by simp [Cursor.nextLine, eq])
      less first rfl
    refine ⟨c', ?_, ends.1, ends.2.1, Nat.le_of_succ_le ends.2.2⟩
    rw [take, eq]
    simp only [List.cons_append, isBlank_of_isBreak isBreak, isBreak, Bool.false_eq_true, if_false, if_true,
      takeBreak_eq eq isBreak printable, found]
    rw [← found, read, List.append_assoc, List.singleton_append]

/-- A break, empty lines after it, and the spaces of the next line. -/
theorem take_breaks (tabs : Nat → Bool) (steps : Nat) {b : Char} {bs : List Char} (breaks : AllBreaks (b :: bs))
    (eq : c.rest = b :: (bs ++ (List.replicate n ' ' ++ tail))) (solid : StartsSolid tail)
    (enough : bs.length + n < steps) :
    ∃ c', take tabs steps {} c = .ok ({ first := some [b], more := bs }, c') ∧ c'.rest = tail ∧
      c'.column = n ∧ c.line < c'.line := by
  obtain ⟨isBreak, printable⟩ := breaks b List.mem_cons_self
  obtain ⟨steps, rfl⟩ := Nat.exists_eq_succ_of_ne_zero (by omega : steps ≠ 0)
  have less : bs.length + n ≤ steps := by omega
  obtain ⟨c', read, ends⟩ := take_emptyLines (c := c.nextLine 1) (g := { first := some [b] })
    (fun b member => breaks b (List.mem_cons_of_mem _ member)) (by simp [Cursor.nextLine, eq])
    solid less rfl rfl
  refine ⟨c', ?_, ends.1, ends.2.1, ends.2.2⟩
  rw [take, eq]
  simp only [isBlank_of_isBreak isBreak, isBreak, Bool.false_eq_true, if_false, if_true,
    takeBreak_eq eq isBreak printable]
  rw [read, List.nil_append]

end Gap

/-! ## Runs -/

/-- Induction over a text whose characters of one kind are taken in runs. -/
theorem runs_induction (kind : Char → Bool) {motive : List Char → Prop} (nil : motive [])
    (other : ∀ ch s, kind ch = false → motive s → motive (ch :: s))
    (run : ∀ r s, r ≠ [] → (∀ ch ∈ r, kind ch = true) → (∀ ch ∈ s.head?, kind ch = false) →
      motive s → motive (r ++ s)) (s : List Char) : motive s := by
  induction length : s.length using Nat.strongRecOn generalizing s with
  | _ length' ih =>
    subst length
    cases s with
    | nil => exact nil
    | cons ch s =>
      cases same : kind ch with
      | false => exact other ch s same (ih s.length (by simp) s rfl)
      | true =>
        have split := List.takeWhile_append_dropWhile (p := kind) (l := ch :: s)
        have some : (ch :: s).takeWhile kind ≠ [] := by simp [same]
        have shorter : ((ch :: s).dropWhile kind).length < (ch :: s).length := by
          have pos := List.length_pos_iff.2 some
          have sum := congrArg List.length split
          rw [List.length_append] at sum
          omega
        rw [← split]
        refine run _ _ some (fun ch member => List.all_eq_true.1 List.all_takeWhile ch member) ?_
          (ih _ shorter _ rfl)
        intro next first
        have stop := List.head?_dropWhile_not kind (ch :: s)
        rw [Option.mem_def.1 first] at stop
        exact stop

/-- Spaces are known by their number. -/
theorem eq_replicate_of_isSpace {r : List Char} (spaces : ∀ ch ∈ r, isSpace ch = true) :
    r = List.replicate r.length ' ' :=
  List.eq_replicate_iff.2 ⟨rfl, fun ch member => by simpa [isSpace] using spaces ch member⟩

/-! ## Pairs -/

/-- There is no such pair if none stands next to each other. -/
theorem hasPair_eq_false_iff {p q : Char → Bool} {s : List Char} :
    hasPair p q s = false ↔ s.IsChain fun a b => ¬(p a = true ∧ q b = true) := by
  induction s using Printer.hasPair.induct with
  | case1 a b rest ih =>
    rw [hasPair, Bool.or_eq_false_iff, ih, List.isChain_cons_cons]
    simp
  | case2 s noPair =>
    rcases s with _ | ⟨a, _ | ⟨b, s⟩⟩
    · simp [hasPair]
    · simp [hasPair]
    · exact absurd rfl (noPair a b s)

theorem hasPair_append {p q : Char → Bool} {r s : List Char} (none : hasPair p q (r ++ s) = false) :
    hasPair p q r = false ∧ hasPair p q s = false := by
  rw [hasPair_eq_false_iff] at none
  rw [hasPair_eq_false_iff, hasPair_eq_false_iff]
  exact ⟨none.left_of_append, none.right_of_append⟩

/-- Spaces and breaks that do not follow each other are of one kind. -/
theorem all_of_not_hasPair {p q : Char → Bool} {r : List Char} (either : ∀ ch ∈ r, (p ch || q ch) = true)
    (noPQ : hasPair p q r = false) (noQP : hasPair q p r = false) :
    (∀ ch ∈ r, p ch = true) ∨ ∀ ch ∈ r, q ch = true := by
  induction r with
  | nil => simp
  | cons a r ih =>
    cases r with
    | nil => simpa using either
    | cons b r =>
      rw [hasPair, Bool.or_eq_false_iff] at noPQ noQP
      rcases ih (fun ch member => either ch (List.mem_cons_of_mem a member)) noPQ.2 noQP.2 with all | all
      all_goals
        have first := either a List.mem_cons_self
        have second := all b List.mem_cons_self
        simp_all

/-! ## Moving in -/

section

variable {n : Nat} {r s bs : List Char}

/-- Moving in leaves a line as it is. -/
theorem movedIn_line (line : ∀ ch ∈ r, isBreak ch = false) :
    movedIn n false (r ++ s) = r ++ movedIn n false s := by
  induction r with
  | nil => rfl
  | cons ch r ih =>
    simp only [List.cons_append, movedIn, line ch List.mem_cons_self, Bool.false_eq_true, if_false,
      List.nil_append, ih fun ch member => line ch (List.mem_cons_of_mem _ member)]

/-- Moving in leaves line breaks as they are. -/
theorem movedIn_breaks (breaks : ∀ b ∈ bs, isBreak b = true) :
    movedIn n true (bs ++ s) = bs ++ movedIn n true s := by
  induction bs with
  | nil => rfl
  | cons b bs ih =>
    simp only [List.cons_append, movedIn, breaks b List.mem_cons_self, if_true,
      ih fun b member => breaks b (List.mem_cons_of_mem _ member)]

/-- What stands on the line after a break is moved in. -/
theorem movedIn_after {ch : Char} (noBreak : isBreak ch = false) :
    movedIn n true (ch :: s) = List.replicate n ' ' ++ movedIn n false (ch :: s) := by
  simp [movedIn, noBreak]

end

end ResourceTree.Yaml
