import ResourceTree.Proofs.Yaml.Printed

/-!
# Characters of printed documents

A printed document holds no character that a document may not hold.
-/

namespace ResourceTree.Yaml
set_option autoImplicit false

open Printer (isPrintable)

/-- Characters that a document may hold. -/
def Allowed (cs : List Char) : Prop := ∀ ch ∈ cs, Token.isAllowed ch = true

section

variable {cs ds : List Char}

/-- What may be printed as it is may stand in a file. -/
theorem isAllowed_of_isPrintable {ch : Char} (printable : isPrintable ch = true) :
    Token.isAllowed ch = true := by
  have bound : ch.toNat < 0xD800 ∨ 0xDFFF < ch.toNat ∧ ch.toNat < 0x110000 := ch.valid
  simp only [isPrintable, Bool.or_eq_true, Bool.and_eq_true, decide_eq_true_eq] at printable
  simp only [Token.isAllowed, Bool.or_eq_true, Bool.and_eq_true, decide_eq_true_eq]
  omega

theorem Allowed.append (left : Allowed cs) (right : Allowed ds) : Allowed (cs ++ ds) :=
  fun ch member => (List.mem_append.1 member).elim (left ch) (right ch)

/-- Moving lines in adds spaces alone. -/
theorem allowed_movedIn {n : Nat} (afterBreak : Bool) (allowed : Allowed cs) :
    Allowed (Printer.movedIn n afterBreak cs) := by
  induction cs generalizing afterBreak with
  | nil => exact allowed
  | cons ch cs ih =>
    obtain ⟨first, rest⟩ := List.forall_mem_cons.1 allowed
    rw [Printer.movedIn]
    split
    · exact List.forall_mem_cons.2 ⟨first, ih true rest⟩
    · refine Allowed.append ?_ (List.forall_mem_cons.2 ⟨first, ih false rest⟩)
      split
      · intro d member
        rw [(List.mem_replicate.1 member).2]
        decide
      · exact List.forall_mem_nil _

theorem allowed_hexDigits (width n : Nat) : Allowed (Printer.hexDigits width n) := by
  have digit (n : Nat) : ∀ c ∈ Nat.toDigits 16 n, ∃ d ∈ List.range 16, c = Nat.digitChar d := by
    induction n using Nat.strongRecOn with
    | _ n ih =>
      rw [Nat.toDigits_eq_if (by decide)]
      split
      · next less =>
        intro c member
        exact ⟨n, List.mem_range.2 less, List.mem_singleton.1 member⟩
      · next notLess =>
        intro c member
        rcases List.mem_append.1 member with member | member
        · exact ih (n / 16) (by omega) c member
        · exact ⟨n % 16, List.mem_range.2 (Nat.mod_lt n (by decide)), List.mem_singleton.1 member⟩
  have each : ∀ d ∈ List.range 16, Token.isAllowed (Nat.digitChar d).toUpper = true := by decide
  refine Allowed.append (fun ch member => ?_) (fun ch member => ?_)
  · rw [(List.mem_replicate.1 member).2]
    decide
  · obtain ⟨c, digits, rfl⟩ := List.mem_map.1 member
    obtain ⟨d, less, rfl⟩ := digit n c digits
    exact each d less

/-- An escape is spelled in characters that may stand in a file, whatever it stands for. -/
theorem allowed_escape (c : Char) : Allowed (Printer.escape c) := by
  have marked (mark : Char) (width : Nat) (first : Token.isAllowed mark = true) :
      Allowed (mark :: Printer.hexDigits width c.toNat) :=
    List.forall_mem_cons.2 ⟨first, allowed_hexDigits _ _⟩
  unfold Printer.escape
  split
  case h_16 =>
    simp only
    split
    · exact marked 'x' 2 (by decide)
    · split
      · exact marked 'u' 4 (by decide)
      · exact marked 'U' 8 (by decide)
  all_goals
    intro ch member
    obtain rfl := List.mem_singleton.1 member
    decide

/-- A character in double quotes is spelled so that it may stand in a file. -/
theorem allowed_spelled (ch : Char) : Allowed (spelled ch) := by
  rw [spelled]
  split
  · exact List.forall_mem_cons.2 ⟨by decide, allowed_escape ch⟩
  · next raw =>
    simp only [Bool.or_eq_true, Bool.not_eq_true', decide_eq_true_eq, not_or, Bool.not_eq_false] at raw
    exact List.forall_mem_singleton.2 (isAllowed_of_isPrintable raw.1.1.1)

/-- Every text is printed in characters that may stand in a file. -/
theorem allowed_scalar (n : Nat) (x : String) : Allowed (Printer.scalar n x) := by
  have fits := fitsStyle x
  rw [Printer.scalar]
  cases style : Printer.styleOf x <;> rw [style] at fits <;> cases fits
  case plain part begins => exact fun ch member => isAllowed_of_isPrintable (part.printable ch member)
  case singleQuoted fits =>
    refine List.forall_mem_cons.2 ⟨by decide, allowed_movedIn false (Allowed.append (fun ch member => ?_)
      (List.forall_mem_singleton.2 (by decide)))⟩
    obtain ⟨d, source, member⟩ := List.mem_flatMap.1 member
    split at member
    · obtain rfl : ch = '\'' := by simpa using member
      decide
    · obtain rfl := List.mem_singleton.1 member
      exact isAllowed_of_isPrintable (fits.printable ch source)
  case doubleQuoted =>
    refine Allowed.append (List.forall_mem_cons.2 ⟨by decide, fun ch member => ?_⟩)
      (List.forall_mem_singleton.2 (by decide))
    obtain ⟨d, -, spells⟩ := List.mem_flatMap.1 member
    exact allowed_spelled d ch spells
  case literal ne printable =>
    have marks : Allowed (Printer.chompingMark x.toList) := by
      rw [Printer.chompingMark]
      repeat' split
      all_goals simp [Allowed, Token.isAllowed]
    have width : Allowed (if x.toList.head?.any fun c => c = ' ' || isBreak c then ['2'] else []) := by
      split <;> simp [Allowed, Token.isAllowed]
    have lines := allowed_movedIn (n := n) true fun ch member => isAllowed_of_isPrintable (printable ch member)
    exact List.forall_mem_cons.2 ⟨by decide, ((width.append marks).append
      (List.forall_mem_singleton.2 (by decide))).append lines⟩

theorem Allowed.endLine (allowed : Allowed cs) : Allowed (Printer.endLine cs) := by
  rw [Printer.endLine]
  split
  · exact allowed
  · exact allowed.append (List.forall_mem_singleton.2 (by decide))

theorem allowed_spaces (n : Nat) : Allowed (List.replicate n ' ') := by
  intro ch member
  rw [(List.mem_replicate.1 member).2]
  decide

/-- A word holds none but printable characters. -/
theorem IsWord.allowed (word : IsWord cs) : Allowed cs :=
  fun ch member => isAllowed_of_isPrintable (isPrintable_of_isWordChar (word.chars ch member))

theorem allowed_items (n : Nat) (xs : List String) : Allowed (Printer.items n xs) := by
  intro ch member
  obtain ⟨x, -, member⟩ := List.mem_flatMap.1 member
  refine Allowed.append ((allowed_spaces n).append ?_) (allowed_scalar (n + 2) x).endLine ch member
  simp [Allowed, Token.isAllowed]

mutual

/-- Every value is printed in characters that may stand in a file. -/
theorem allowed_value (n : Nat) (v : Value) (fits : v.Fits) : Allowed (Printer.value n v) := by
  cases v with
  | word x =>
    have feed : Allowed ['\n'] := by simp [Allowed, Token.isAllowed]
    exact List.forall_mem_cons.2 ⟨by decide, (IsWord.allowed fits).append feed⟩
  | text x => exact List.forall_mem_cons.2 ⟨by decide, (allowed_scalar _ x).endLine⟩
  | texts xs =>
    cases xs with
    | nil => simp [Printer.value, Allowed, Token.isAllowed]
    | cons x xs => exact List.forall_mem_cons.2 ⟨by decide, allowed_items n (x :: xs)⟩
  | mapping ms =>
    cases ms with
    | nil => simp [Printer.value, Allowed, Token.isAllowed]
    | cons m ms => exact List.forall_mem_cons.2 ⟨by decide, allowed_members (n + 2) (m :: ms) fits⟩

theorem allowed_members (n : Nat) (ms : List (String × Value)) (fits : MembersFit ms) :
    Allowed (Printer.members n ms) := by
  match ms with
  | [] => exact fun _ member => nomatch member
  | (k, v) :: rest =>
    obtain ⟨key, fitsValue, fitsRest⟩ := fits
    exact (((allowed_spaces n).append key.isWord.allowed).append (by simp [Allowed, Token.isAllowed])).append
      (allowed_value n v fitsValue) |>.append (allowed_members n rest fitsRest)

end

/-- In a text of allowed characters the scanner finds none to refuse. -/
theorem forbidden?_of_allowed (allowed : Allowed cs) (offset : Nat) : Token.forbidden? offset cs = none := by
  induction cs generalizing offset with
  | nil => rfl
  | cons ch cs ih =>
    obtain ⟨first, rest⟩ := List.forall_mem_cons.1 allowed
    rw [Token.forbidden?, if_pos first]
    exact ih rest _

end

end ResourceTree.Yaml
