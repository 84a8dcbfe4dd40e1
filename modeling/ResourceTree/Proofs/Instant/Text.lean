import ResourceTree.Proofs.Instant.Calendar

/-!
# Instants read back from their text

An instant of a year of four digits is what its text is read as. The fields are read in the order in
which they are written, so each step of the reader meets the digits of one field and what follows.
-/

namespace ResourceTree.Instant
set_option autoImplicit false

variable {t : Instant}

/-- Two digits are read back. -/
theorem digits?_two {n : Nat} (h : n < 100) (rest : List Char) :
    digits? 2 (padded 2 n ++ rest) = some (n, rest) :=
  digits?_padded (by decide) h rest

/-- Four digits are read back. -/
theorem digits?_four {n : Nat} (h : n < 10000) (rest : List Char) :
    digits? 4 (padded 4 n ++ rest) = some (n, rest) :=
  digits?_padded (by decide) h rest

theorem char?_cons (c : Char) (rest : List Char) : char? c (c :: rest) = some rest := by
  simp only [char?, if_true]

theorem separator?_cons (rest : List Char) : separator? ('T' :: rest) = some rest := rfl

/-- A shortened fraction stands for the same number of nanoseconds. -/
theorem fraction?_padded {width n : Nat} (scale : Nat) (pos : 0 < width) (le : width ≤ 9)
    (eq : Nat.pow 10 (9 - width) = scale) (h : n < Nat.pow 10 width) :
    fraction? ('.' :: padded width n ++ ['Z']) = some (n * scale, ['Z']) := by
  have length := length_padded pos h
  have ne : padded width n ≠ [] := by
    intro none
    rw [none] at length
    simp only [List.length_nil] at length
    omega
  have nine : (padded width n ++ List.replicate 9 '0').take 9
      = padded width n ++ List.replicate (9 - width) '0' := by
    rw [List.take_append, List.take_of_length_le (by omega), length, List.take_replicate,
      Nat.min_eq_left (by omega)]
  have scaled : 10 ^ (9 - width) = scale := eq
  rw [fraction?_digits (isDigit_padded width n) ne (by simp), nine, Nat.ofDigitChars_append,
    ofDigitChars_padded, Nat.ofDigitChars_replicate_zero, scaled, Nat.mul_comm]

/-- A fraction is read back up to the letter at the end. -/
theorem fraction?_fractionChars {nanos : Nat} (h : nanos < 1000000000) :
    fraction? (fractionChars nanos ++ ['Z']) = some (nanos, ['Z']) := by
  unfold fractionChars
  split
  · next none => rw [none]; rfl
  · split
    · next millis =>
      have lt : nanos / 1000000 < 1000 := by omega
      rw [fraction?_padded 1000000 (by decide) (by decide) rfl lt]
      congr 2
      omega
    · split
      · next micros =>
        have lt : nanos / 1000 < 1000000 := by omega
        rw [fraction?_padded 1000 (by decide) (by decide) rfl lt]
        congr 2
        omega
      · rw [fraction?_padded 1 (by decide) (by decide) rfl h, Nat.mul_one]

/-- The second of the minute as it is written: a leap second is the sixtieth. -/
def shownSecond (t : Instant) : Nat := t.second % 60 + if 1000000000 ≤ t.nanos then 1 else 0

/-- The second is shown as the sixtieth in a leap second and at no other time. -/
theorem Valid.shownSecond_eq_sixty_iff (h : t.Valid) :
    t.shownSecond = 60 ↔ 1000000000 ≤ t.nanos := by
  unfold shownSecond
  split
  · next late => simp only [h.leap late, late]
  · next early => simp only [early, iff_false]; omega

theorem shownSecond_le (t : Instant) : t.shownSecond ≤ 60 := by
  unfold shownSecond
  split
  · omega
  · omega

/-- The fields of the time of day, read as the reader does, are the second of the day. -/
theorem Valid.second_of_fields (h : t.Valid) :
    t.second / 3600 * 3600 + t.second / 60 % 60 * 60
      + (if t.shownSecond = 60 then 59 else t.shownSecond) = t.second := by
  simp only [h.shownSecond_eq_sixty_iff]
  split
  · next late => have place := h.leap late; omega
  · next early => simp only [shownSecond, early, if_false]; omega

/-- The shown second and the fraction give the nanoseconds back. -/
theorem Valid.nanos_of_fields (h : t.Valid) :
    t.nanos % 1000000000 + (if t.shownSecond = 60 then 1000000000 else 0) = t.nanos := by
  have lt := h.nanos_lt
  simp only [h.shownSecond_eq_sixty_iff]
  split
  · omega
  · omega

/-- A time in UTC is not shifted. -/
theorem shiftBack_zero (h : t.second < 86400) : shiftBack 0 t = t := by
  unfold shiftBack
  simp only
  rw [if_neg (by omega), if_neg (by omega)]
  cases t
  simp only [mk.injEq, true_and, and_true]
  omega

/-- The text of a time whose year has four digits, part by part. -/
theorem toChars_eq (low : 0 ≤ t.year) (high : t.year ≤ 9999) :
    t.toChars = padded 4 t.year.toNat ++ '-' :: (padded 2 t.month ++ '-' :: (padded 2 t.day ++ 'T' ::
      (padded 2 (t.second / 3600) ++ ':' :: (padded 2 (t.second / 60 % 60) ++ ':' ::
        (padded 2 t.shownSecond ++ (fractionChars (t.nanos % 1000000000) ++ ['Z'])))))) := by
  simp [toChars, yearChars, low, high, shownSecond]

/-- A time whose year has four digits is read back from its characters. -/
theorem ofChars?_toChars (h : t.Valid) (low : 0 ≤ t.year) (high : t.year ≤ 9999) :
    ofChars? t.toChars = some t := by
  have month_le := h.month_le
  have day_le := Nat.le_trans h.day_le (daysIn_bounds _ _).2
  have second_lt := h.second_lt
  have shown_le := t.shownSecond_le
  rw [toChars_eq low high]
  -- field by field, each with the character behind it
  refine Option.bind_eq_some_iff.2 ⟨_, digits?_four (by omega) _, ?_⟩
  refine Option.bind_eq_some_iff.2 ⟨_, char?_cons _ _, ?_⟩
  refine Option.bind_eq_some_iff.2 ⟨_, digits?_two (by omega) _, ?_⟩
  refine Option.bind_eq_some_iff.2 ⟨_, char?_cons _ _, ?_⟩
  refine Option.bind_eq_some_iff.2 ⟨_, digits?_two (by omega) _, ?_⟩
  refine Option.bind_eq_some_iff.2 ⟨_, separator?_cons _, ?_⟩
  refine Option.bind_eq_some_iff.2 ⟨_, digits?_two (by omega) _, ?_⟩
  refine Option.bind_eq_some_iff.2 ⟨_, char?_cons _ _, ?_⟩
  refine Option.bind_eq_some_iff.2 ⟨_, digits?_two (by omega) _, ?_⟩
  refine Option.bind_eq_some_iff.2 ⟨_, char?_cons _ _, ?_⟩
  refine Option.bind_eq_some_iff.2 ⟨_, digits?_two (by omega) _, ?_⟩
  refine Option.bind_eq_some_iff.2 ⟨_, fraction?_fractionChars (Nat.mod_lt _ (by decide)), ?_⟩
  refine Option.bind_eq_some_iff.2 ⟨(0, []), rfl, ?_⟩
  dsimp only
  rw [h.second_of_fields, h.nanos_of_fields, Int.toNat_of_nonneg low, shiftBack_zero second_lt,
    if_pos]
  · rfl
  · simp only [List.isEmpty_nil, Bool.true_and, Bool.and_eq_true, decide_eq_true_eq]
    exact ⟨⟨⟨⟨⟨⟨h.month_pos, month_le⟩, h.day_pos⟩, h.day_le⟩, by omega⟩, by omega⟩, shown_le⟩

/-- A time whose year has four digits is read back from its text. -/
theorem ofText?_toText (h : t.Valid) (low : 0 ≤ t.year) (high : t.year ≤ 9999) :
    ofText? t.toText = some t := by
  rw [ofText?, toText, String.toList_ofList, ofChars?_toChars h low high]

end ResourceTree.Instant
