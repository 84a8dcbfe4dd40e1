import ResourceTree.Instant

/-!
# Numbers in the text of an instant

A number that is padded to the width of its field is read back from it, whatever follows, and
digits behind the point of a fraction stand for less than a second.
-/

namespace ResourceTree.Instant
set_option autoImplicit false

variable {cs rest : List Char} {width n : Nat}

theorem digit?_of_isDigit {c : Char} (h : c.isDigit = true) :
    digit? c = some (c.toNat - '0'.toNat) := by
  simp only [Char.isDigit, Bool.and_eq_true, decide_eq_true_eq] at h
  have bounds : '0' ≤ c ∧ c ≤ '9' := h
  rw [digit?, if_pos bounds]

/-- Digits are read one by one. -/
theorem mapM_digit? (digits : ∀ c ∈ cs, c.isDigit = true) :
    cs.mapM digit? = some (cs.map fun c => c.toNat - '0'.toNat) := by
  induction cs with
  | nil => rfl
  | cons c cs ih =>
    have here := digit?_of_isDigit (digits c List.mem_cons_self)
    have there := ih fun d member => digits d (List.mem_cons_of_mem _ member)
    simp only [List.mapM_cons, here, there, List.map_cons]
    rfl

/-- Their values add up to the number they spell. -/
theorem foldl_digits (cs : List Char) (n : Nat) :
    (cs.map fun c => c.toNat - '0'.toNat).foldl (fun n d => n * 10 + d) n =
      Nat.ofDigitChars 10 cs n := by
  rw [List.foldl_map, Nat.ofDigitChars_eq_foldl]
  simp only [Nat.mul_comm]

/-- As many digits as are asked for are read, and what follows is left. -/
theorem digits?_append (digits : ∀ c ∈ cs, c.isDigit = true) (rest : List Char) :
    digits? cs.length (cs ++ rest) = some (Nat.ofDigitChars 10 cs 0, rest) := by
  simp only [digits?, List.take_left, if_true, mapM_digit? digits, List.drop_left]
  rw [← foldl_digits]
  rfl

theorem isDigit_padded (width n : Nat) : ∀ c ∈ padded width n, c.isDigit = true := by
  intro c member
  rcases List.mem_append.1 member with member | member
  · rw [List.eq_of_mem_replicate member]; rfl
  · exact Nat.isDigit_of_mem_toDigits (by decide) (by decide) member

/-- A number that fits is padded to the width. -/
theorem length_padded (pos : 0 < width) (h : n < Nat.pow 10 width) : (padded width n).length = width := by
  have le := (Nat.length_toDigits_le_iff (by decide) pos).2 h
  simp only [padded, List.length_append, List.length_replicate]
  omega

/-- Zeros in front change no number. -/
theorem ofDigitChars_padded (width n : Nat) : Nat.ofDigitChars 10 (padded width n) 0 = n := by
  rw [padded, Nat.ofDigitChars_append, Nat.ofDigitChars_replicate_zero, Nat.mul_zero,
    Nat.ofDigitChars_ten_toDigits]

/-- A padded number is read back, and what follows is left. -/
theorem digits?_padded (pos : 0 < width) (h : n < Nat.pow 10 width) (rest : List Char) :
    digits? width (padded width n ++ rest) = some (n, rest) := by
  have read := digits?_append (isDigit_padded width n) rest
  rwa [length_padded pos h, ofDigitChars_padded] at read

/-- A number has no more digits than it is spelled with. -/
theorem ofDigitChars_lt (digits : ∀ c ∈ cs, c.isDigit = true) :
    Nat.ofDigitChars 10 cs 0 < Nat.pow 10 cs.length := by
  induction cs with
  | nil => simp
  | cons c cs ih =>
    have there := ih fun d member => digits d (List.mem_cons_of_mem _ member)
    have here : c.toNat - '0'.toNat ≤ 9 := by
      have bounds := digits c List.mem_cons_self
      simp only [Char.isDigit, Bool.and_eq_true, decide_eq_true_eq] at bounds
      have upper : c.toNat ≤ 57 := bounds.2
      have zero : '0'.toNat = 48 := rfl
      omega
    have le := Nat.mul_le_mul_left (Nat.pow 10 cs.length) here
    have more : Nat.pow 10 (c :: cs).length = Nat.pow 10 cs.length * 10 := rfl
    have split : Nat.ofDigitChars 10 (c :: cs) 0 =
        Nat.pow 10 cs.length * (c.toNat - '0'.toNat) + Nat.ofDigitChars 10 cs 0 := by
      rw [Nat.ofDigitChars_cons, Nat.ofDigitChars_eq_ofDigitChars_zero, Nat.mul_zero, Nat.zero_add]
      rfl
    omega

/-- The digits of a fraction, filled up to nine, are those of its nanoseconds. -/
theorem fraction?_digits (digits : ∀ c ∈ cs, c.isDigit = true) (ne : cs ≠ [])
    (stop : ∀ c ∈ rest.head?, c.isDigit = false) :
    fraction? ('.' :: cs ++ rest) =
      some (Nat.ofDigitChars 10 ((cs ++ List.replicate 9 '0').take 9) 0, rest) := by
  have taken : (cs ++ rest).takeWhile Char.isDigit = cs := by
    rw [List.takeWhile_append_of_pos digits]
    cases rest with
    | nil => simp
    | cons c rest => simp [stop c rfl]
  have dropped : (cs ++ rest).dropWhile Char.isDigit = rest := by
    rw [List.dropWhile_append_of_pos digits]
    cases rest with
    | nil => rfl
    | cons c rest => simp [stop c rfl]
  rw [List.cons_append, fraction?]
  simp only [taken, dropped, List.isEmpty_iff, ne, if_false, Nat.ofDigitChars_eq_foldl, Nat.mul_comm]

/-- A fraction of a second is less than a second. -/
theorem fraction?_lt {s : List Char} (h : fraction? s = some (n, rest)) : n < 1000000000 := by
  unfold fraction? at h
  split at h
  · next rest' =>
    simp only at h
    split at h
    · cases h
    · cases h
      have digits : ∀ c ∈ (rest'.takeWhile Char.isDigit ++ List.replicate 9 '0').take 9,
          c.isDigit = true := by
        intro c member
        rcases List.mem_append.1 (List.mem_of_mem_take member) with member | member
        · exact List.all_eq_true.1 List.all_takeWhile c member
        · rw [List.eq_of_mem_replicate member]; rfl
      have lt := ofDigitChars_lt digits
      simp only [Nat.ofDigitChars_eq_foldl, Nat.mul_comm 10, List.length_take] at lt
      exact Nat.lt_of_lt_of_le lt (Nat.pow_le_pow_right (by decide) (Nat.min_le_left _ _))
  · cases h
    decide

end ResourceTree.Instant
