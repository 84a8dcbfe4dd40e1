import ResourceTree.Proofs.Number.Decimals
import ResourceTree.Proofs.Yaml.Plain
import ResourceTree.Yaml.Scalar

/-!
# Numbers as words

The texts of natural numbers and of doubles are words, and a plain scalar with such a text stands for the
number again.
-/

namespace ResourceTree.Yaml
set_option autoImplicit false

open Number

section

variable {s : List Char} {ch : Char}

theorem isWordChar_of_isDigit (digit : ch.isDigit = true) : isWordChar ch = true := by
  simp [isWordChar, Char.isAlphanum, digit]

/-- What begins with a digit and is made of word characters is a word. -/
theorem isWord_of_isDigit (chars : ∀ c ∈ ch :: s, isWordChar c = true) (digit : ch.isDigit = true) :
    IsWord (ch :: s) where
  chars := chars
  some := List.cons_ne_nil ch s
  noDash := fun dash => ne_of_isDigit digit rfl (List.cons.inj dash).1

end

/-! ## Natural numbers -/

/-- The digits of a number are a word. -/
theorem isWord_toDigits (n : Nat) : IsWord (Nat.toDigits 10 n) where
  chars := fun c member => isWordChar_of_isDigit (allDigits_toDigits n c member)
  some := Nat.toDigits_ne_nil
  noDash := fun dash =>
    ne_of_isDigit (allDigits_toDigits n '-' (dash ▸ List.mem_singleton_self '-')) (d := '-') rfl rfl

/-- The digits of a number do not begin with a zero, except for zero itself. -/
theorem head?_toDigits {n : Nat} (pos : 0 < n) : (Nat.toDigits 10 n).head? ≠ some '0' := by
  induction n using Nat.strongRecOn with
  | ind n ih =>
    by_cases small : n < 10
    · have each : ∀ d < 10, 0 < d → Nat.digitChar d ≠ '0' := by decide
      rw [Nat.toDigits_of_lt_base small]
      simpa using each n small pos
    · have split := Nat.toDigits_append_toDigits (b := 10) (n := n / 10) (d := n % 10) (by decide)
        (by omega) (by omega)
      rw [Nat.div_add_mod] at split
      rw [← split, List.head?_append_of_ne_nil _ Nat.toDigits_ne_nil]
      exact ih (n / 10) (by omega) (by omega)

namespace Scalar

section

variable {s : List Char} {c : Char}

theorem dropPlus_of_ne (ne : c ≠ '+') : dropPlus (c :: s) = c :: s := by
  rw [dropPlus]
  rintro _ ⟨⟩
  exact ne rfl

theorem startsWithSign_of_isDigit (digit : c.isDigit = true) : startsWithSign (c :: s) = false := by
  simp [startsWithSign, isSign, ne_of_isDigit digit (d := '+') rfl, ne_of_isDigit digit (d := '-') rfl]

/-- Digits do not hold the mark of a base. -/
theorem marked?_digits (digits : AllDigits s) : marked? s = none := by
  rw [marked?, List.findSome?_eq_none_iff]
  rintro ⟨mark, base⟩ member
  refine if_neg fun taken => ?_
  have letter : ∀ b ∈ bases, b.1.all Char.isDigit = false := by decide
  have allDigits : mark.all Char.isDigit = true :=
    List.all_eq_true.2 fun d inMark => digits d (List.mem_of_mem_take (taken ▸ inMark))
  exact Bool.false_ne_true ((letter _ member).symm.trans allDigits)

/-- No number is written with a zero in front. -/
theorem isZeroLed_toDigits (n : Nat) : isZeroLed (Nat.toDigits 10 n) = false := by
  obtain ⟨c, cs, eq⟩ := List.exists_cons_of_ne_nil (Nat.toDigits_ne_nil (n := n) (b := 10))
  have digit := allDigits_toDigits n c (by rw [eq]; exact List.mem_cons_self)
  have noSign : startsWithSign (Nat.toDigits 10 n) = false := eq ▸ startsWithSign_of_isDigit digit
  rw [isZeroLed, noSign]
  rcases Nat.eq_zero_or_pos n with rfl | pos
  · rfl
  · simp [head?_toDigits pos]

/-- A natural number is read back from its digits. -/
theorem natural?_toDigits {limit n : Nat} (small : n < limit) :
    natural? limit (Nat.toDigits 10 n) = some n := by
  obtain ⟨c, cs, eq⟩ := List.exists_cons_of_ne_nil (Nat.toDigits_ne_nil (n := n) (b := 10))
  have digit := allDigits_toDigits n c (by rw [eq]; exact List.mem_cons_self)
  have noSign : startsWithSign (Nat.toDigits 10 n) = false := eq ▸ startsWithSign_of_isDigit digit
  have body : dropPlus (Nat.toDigits 10 n) = Nat.toDigits 10 n :=
    eq ▸ dropPlus_of_ne (ne_of_isDigit digit rfl)
  rw [natural?, body, marked?_digits (allDigits_toDigits n)]
  simp only [noSign, isZeroLed_toDigits, Bool.or_self, Bool.false_eq_true, if_false]
  rw [below?, digitsValue?_toDigits]
  exact Option.filter_some_pos (decide_eq_true small)

end

end Scalar

/-! ## Doubles -/

section

variable {style : FloatStyle} {x : Float} {negative : Bool} {m : Nat} {e : Int}

theorem word_append {s t : List Char} (left : ∀ c ∈ s, isWordChar c = true) (right : ∀ c ∈ t, isWordChar c = true) :
    ∀ c ∈ s ++ t, isWordChar c = true :=
  fun c member => (List.mem_append.1 member).elim (left c) (right c)

theorem word_digits {s : List Char} (digits : AllDigits s) : ∀ c ∈ s, isWordChar c = true :=
  fun c member => isWordChar_of_isDigit (digits c member)

/-- A decimal that is set out positionally is made of word characters. -/
theorem word_positional (d : Decimal) (keepsPoint : Bool) :
    ∀ c ∈ (d.positional keepsPoint).toList, isWordChar c = true := by
  have digits := allDigits_toDigits d.digits
  rw [Decimal.positional]
  split
  · rw [String.toList_ofList]
    refine word_append (word_digits (digits.append (allDigits_zeros _))) ?_
    cases keepsPoint
    · exact List.forall_mem_nil _
    · exact List.all_eq_true.1 rfl
  · have padded := fun n => word_digits ((allDigits_zeros n).append digits)
    rw [String.toList_ofList]
    exact word_append (word_append (fun c member => padded _ c (List.mem_of_mem_take member))
      (List.all_eq_true.1 rfl))
      fun c member => padded _ c (List.mem_of_mem_drop member)

/-- So is one with an exponent. -/
theorem word_scientific (d : Decimal) : ∀ c ∈ (d.scientific "e").toList, isWordChar c = true := by
  have digits := word_digits (allDigits_toDigits d.digits)
  have fraction : ∀ c ∈ (if ((Nat.toDigits 10 d.digits).drop 1).isEmpty then []
      else ['.'] ++ (Nat.toDigits 10 d.digits).drop 1), isWordChar c = true := by
    split
    · exact List.forall_mem_nil _
    · exact word_append (List.all_eq_true.1 rfl) fun c member => digits c (List.mem_of_mem_drop member)
  have mark (small : Prop) [Decidable small] :
      ∀ c ∈ (if small then "e-" else "e").toList, isWordChar c = true := by
    split <;> exact List.all_eq_true.1 rfl
  rw [Decimal.scientific]
  simp only [String.toList_append, String.toList_ofList, Nat.toString_eq_ofList_toDigits]
  exact word_append (word_append (word_append (fun c member => digits c (List.mem_of_mem_take member)) fraction)
    (mark _)) (word_digits (allDigits_toDigits _))

/-- The text of a finite double is a sign or none and then a word that begins with a digit. -/
theorem word_finite (mark : style.exponentMark = "e") (finite : Binary64.ofFloat x = .finite negative m e) :
    ∃ c rest, (style.text x).toList = (if negative then ['-'] else []) ++ c :: rest ∧
      c.isDigit = true ∧ ∀ d ∈ c :: rest, isWordChar d = true := by
  obtain ⟨c, rest, eq, digit⟩ := (reads_body mark negative m e).starts
  refine ⟨c, rest, ?_, digit, ?_⟩
  · rw [text_finite finite, String.toList_append, eq]
    cases negative <;> rfl
  · rw [← eq, FloatStyle.body]
    split
    · exact word_positional _ _
    · rw [mark]
      exact word_scientific _

/-- The text of a finite double is a word. -/
theorem isWord_finite (mark : style.exponentMark = "e") (finite : Binary64.ofFloat x = .finite negative m e) :
    IsWord (style.text x).toList := by
  obtain ⟨c, rest, eq, digit, chars⟩ := word_finite mark finite
  rw [eq]
  cases negative with
  | false => exact isWord_of_isDigit chars digit
  | true =>
    refine ⟨word_append (s := ['-']) (List.all_eq_true.1 rfl) chars, List.cons_ne_nil _ _, fun dash => ?_⟩
    exact nomatch (List.cons.inj dash).2

/-- A finite double is read back from its text. -/
theorem Scalar.double?_finite (mark : style.exponentMark = "e")
    (finite : Binary64.ofFloat x = .finite negative m e) : Scalar.double? (style.text x) = some x := by
  obtain ⟨c, rest, eq, digit, -⟩ := word_finite mark finite
  have body : dropPlus (style.text x).toList = (style.text x).toList ∧ (style.text x).toList.head? ≠ some '+' := by
    rw [eq]
    cases negative with
    | false => exact ⟨dropPlus_of_ne (ne_of_isDigit digit rfl), by simpa using ne_of_isDigit digit (d := '+') rfl⟩
    | true => exact ⟨rfl, by simp⟩
  -- The words for what is not finite begin with a point, behind a sign or not.
  have first : ((style.text x).toList.dropWhile (· = '-')).head? = some c := by
    rw [eq]
    cases negative <;> simp [ne_of_isDigit digit (d := '-') rfl]
  have noWord {w : String} (point : (w.toList.dropWhile (· = '-')).head? = some '.') : style.text x ≠ w := by
    rintro rfl
    exact ne_of_isDigit digit (d := '.') rfl (Option.some.inj (first.symm.trans point))
  rw [Scalar.double?, body.1, String.ofList_toList]
  simp only [body.2, decide_false, Bool.and_false, Bool.false_eq_true, if_false]
  rw [if_neg (not_or.2 ⟨noWord rfl, not_or.2 ⟨noWord rfl, noWord rfl⟩⟩),
    if_neg (not_or.2 ⟨noWord rfl, not_or.2 ⟨noWord rfl, noWord rfl⟩⟩),
    if_neg (not_or.2 ⟨noWord rfl, not_or.2 ⟨noWord rfl, noWord rfl⟩⟩), Number.double?_finite mark finite]
  exact Option.filter_some_pos (isFinite_of_finite finite)

end

end ResourceTree.Yaml
