import ResourceTree.Proofs.Instant.Digits

/-!
# Instants that exist

What is read from a text is a day of the calendar and a time of that day, also when an offset moves
it to the day before or behind.
-/

namespace ResourceTree.Instant
set_option autoImplicit false

/-- A day of the calendar with a time on it; only the last second of a minute can be a leap
second. -/
structure Valid (t : Instant) : Prop where
  month_pos : 1 ≤ t.month
  month_le : t.month ≤ 12
  day_pos : 1 ≤ t.day
  day_le : t.day ≤ daysIn t.year t.month
  second_lt : t.second < 86400
  nanos_lt : t.nanos < 2000000000
  leap : 1000000000 ≤ t.nanos → t.second % 60 = 59

/-- A month has between 28 and 31 days. -/
theorem daysIn_bounds (year : Int) (month : Nat) :
    28 ≤ daysIn year month ∧ daysIn year month ≤ 31 := by
  unfold daysIn
  split
  · split
    · decide
    · decide
  · split
    · decide
    · decide

theorem one_le_daysIn (year : Int) (month : Nat) : 1 ≤ daysIn year month :=
  Nat.le_trans (by decide) (daysIn_bounds year month).1

theorem daysIn_december (year : Int) : daysIn year 12 = 31 := rfl

variable {t : Instant}

/-- The day after a valid one is valid, also over the end of a year. -/
theorem Valid.nextDay (h : t.Valid) : t.nextDay.Valid := by
  obtain ⟨month_pos, month_le, day_pos, day_le, second_lt, nanos_lt, leap⟩ := h
  unfold Instant.nextDay
  split
  · next more => exact ⟨month_pos, month_le, by simp, more, second_lt, nanos_lt, leap⟩
  · split
    · next more =>
      exact ⟨by simp, more, Nat.le_refl 1, one_le_daysIn _ _, second_lt, nanos_lt, leap⟩
    · exact ⟨Nat.le_refl 1, Nat.le_add_left 1 11, Nat.le_refl 1, one_le_daysIn _ _, second_lt,
        nanos_lt, leap⟩

/-- The day before a valid one is valid, also over the beginning of a year. -/
theorem Valid.previousDay (h : t.Valid) : t.previousDay.Valid := by
  obtain ⟨month_pos, month_le, day_pos, day_le, second_lt, nanos_lt, leap⟩ := h
  unfold Instant.previousDay
  split
  · next more =>
    refine ⟨month_pos, month_le, ?_, ?_, second_lt, nanos_lt, leap⟩
    · show 1 ≤ t.day - 1
      omega
    · show t.day - 1 ≤ daysIn t.year t.month
      omega
  · split
    · next more =>
      refine ⟨?_, ?_, one_le_daysIn _ _, Nat.le_refl _, second_lt, nanos_lt, leap⟩
      · show 1 ≤ t.month - 1
        omega
      · show t.month - 1 ≤ 12
        omega
    · exact ⟨Nat.le_add_left 1 11, Nat.le_refl 12, Nat.le_add_left 1 30,
        Nat.le_of_eq (daysIn_december _).symm, second_lt, nanos_lt, leap⟩

/-- Whole minutes do not move the place in the minute. -/
theorem Valid.at_second (h : t.Valid) {second : Nat} (lt : second < 86400)
    (place : second % 60 = t.second % 60) {day : Instant} (same : day.Valid)
    (nanos : day.nanos = t.nanos) : { day with second }.Valid := by
  obtain ⟨month_pos, month_le, day_pos, day_le, -, nanos_lt, -⟩ := same
  refine ⟨month_pos, month_le, day_pos, day_le, lt, nanos_lt, fun leap => ?_⟩
  show second % 60 = 59
  rw [place]
  exact h.leap (nanos ▸ leap)

theorem nanos_previousDay (t : Instant) : t.previousDay.nanos = t.nanos := by
  unfold previousDay
  split
  · rfl
  · split
    · rfl
    · rfl

theorem nanos_nextDay (t : Instant) : t.nextDay.nanos = t.nanos := by
  unfold nextDay
  split
  · rfl
  · split
    · rfl
    · rfl

/-- An offset of less than a day leads to a valid time. -/
theorem Valid.shiftBack (h : t.Valid) {minutes : Int} (low : -1440 < minutes)
    (high : minutes < 1440) : (shiftBack minutes t).Valid := by
  have lt := h.second_lt
  unfold Instant.shiftBack
  simp only
  split
  · exact h.at_second (by omega) (by omega) h.previousDay (nanos_previousDay t)
  · split
    · exact h.at_second (by omega) (by omega) h.nextDay (nanos_nextDay t)
    · exact h.at_second (by omega) (by omega) h rfl

/-- An offset of hours and minutes is less than a day either way. -/
theorem signed_bounds {hours past : Nat} (hours_lt : hours < 24) (past_lt : past < 60)
    (negative : Bool) :
    -1440 < (if negative then -((hours : Int) * 60 + past) else (hours : Int) * 60 + past) ∧
      (if negative then -((hours : Int) * 60 + past) else (hours : Int) * 60 + past) < 1440 := by
  cases negative with
  | true => simp only [if_true]; omega
  | false => simp only [Bool.false_eq_true, if_false]; omega

/-- An offset is less than a day. -/
theorem offset?_bounds {s rest : List Char} {minutes : Int} (h : offset? s = some (minutes, rest)) :
    -1440 < minutes ∧ minutes < 1440 := by
  unfold offset? at h
  split at h
  · cases h; decide
  · cases h; decide
  · simp only [Option.bind_eq_bind] at h
    split at h
    · simp only [Option.bind_some, Option.bind_eq_some_iff] at h
      obtain ⟨⟨hours, _⟩, -, _, -, ⟨past, _⟩, -, h⟩ := h
      split at h
      · next fits =>
        cases h
        exact signed_bounds fits.1 fits.2 false
      · cases h
    · split at h
      · simp only [Option.bind_some, Option.bind_eq_some_iff] at h
        obtain ⟨⟨hours, _⟩, -, _, -, ⟨past, _⟩, -, h⟩ := h
        split at h
        · next fits =>
          cases h
          exact signed_bounds fits.1 fits.2 true
        · cases h
      · cases h
  · cases h

/-- What is read is an instant that exists. -/
theorem valid_of_ofChars? {s : List Char} (h : ofChars? s = some t) : t.Valid := by
  obtain ⟨⟨year, _⟩, -, h⟩ := Option.bind_eq_some_iff.1 h
  obtain ⟨_, -, h⟩ := Option.bind_eq_some_iff.1 h
  obtain ⟨⟨month, _⟩, -, h⟩ := Option.bind_eq_some_iff.1 h
  obtain ⟨_, -, h⟩ := Option.bind_eq_some_iff.1 h
  obtain ⟨⟨day, _⟩, -, h⟩ := Option.bind_eq_some_iff.1 h
  obtain ⟨_, -, h⟩ := Option.bind_eq_some_iff.1 h
  obtain ⟨⟨hour, _⟩, -, h⟩ := Option.bind_eq_some_iff.1 h
  obtain ⟨_, -, h⟩ := Option.bind_eq_some_iff.1 h
  obtain ⟨⟨minute, _⟩, -, h⟩ := Option.bind_eq_some_iff.1 h
  obtain ⟨_, -, h⟩ := Option.bind_eq_some_iff.1 h
  obtain ⟨⟨second, _⟩, -, h⟩ := Option.bind_eq_some_iff.1 h
  obtain ⟨⟨nanos, _⟩, fraction, h⟩ := Option.bind_eq_some_iff.1 h
  obtain ⟨⟨ahead, _⟩, offset, h⟩ := Option.bind_eq_some_iff.1 h
  have nanos_lt := fraction?_lt fraction
  obtain ⟨low, high⟩ := offset?_bounds offset
  dsimp only at h
  split at h
  · next fits =>
    simp only [Bool.and_eq_true, decide_eq_true_eq] at fits
    obtain ⟨⟨⟨⟨⟨⟨⟨-, month_pos⟩, month_le⟩, day_pos⟩, day_le⟩, hour_lt⟩, minute_lt⟩, second_le⟩ := fits
    cases h
    -- a leap second is kept as the second before it
    have kept : (if second = 60 then 59 else second) < 60 := by
      split
      · decide
      · omega
    refine Valid.shiftBack ⟨month_pos, month_le, day_pos, day_le, ?_, ?_, ?_⟩ low high
    · show hour * 3600 + minute * 60 + (if second = 60 then 59 else second) < 86400
      omega
    · show nanos + (if second = 60 then 1000000000 else 0) < 2000000000
      split
      · omega
      · omega
    · show 1000000000 ≤ nanos + (if second = 60 then 1000000000 else 0) →
        (hour * 3600 + minute * 60 + (if second = 60 then 59 else second)) % 60 = 59
      split
      · omega
      · omega
  · cases h

/-- Every time that is read is a valid one. -/
theorem valid_of_ofText? {s : String} (h : ofText? s = some t) : t.Valid :=
  valid_of_ofChars? h

end ResourceTree.Instant
