import ResourceTree.Json.Token
import ResourceTree.Proofs.Instant.Digits
import ResourceTree.Proofs.Text.Bytes

/-!
# Whole numbers in JSON

The digits of a whole number are cut off as one token that carries it, if what follows them cannot
belong to a number.
-/

namespace ResourceTree.Json.Token
set_option autoImplicit false

/-- What may stand behind a value: nothing, a comma or a closing bracket. -/
def Stops (rest : List UInt8) : Prop := ∀ b ∈ rest.head?, b = 0x2C ∨ b = 0x5D ∨ b = 0x7D

theorem stops_nil : Stops [] := fun _ member => by cases member

theorem stops_comma (rest : List UInt8) : Stops (0x2C :: rest) := by
  rintro _ ⟨⟩
  exact .inl rfl

theorem stops_closeArray (rest : List UInt8) : Stops (0x5D :: rest) := by
  rintro _ ⟨⟩
  exact .inr (.inl rfl)

theorem stops_closeObject (rest : List UInt8) : Stops (0x7D :: rest) := by
  rintro _ ⟨⟩
  exact .inr (.inr rfl)

/-- The digits of a number. -/
def digits (n : Nat) : List UInt8 := Text.utf8 (Nat.toDigits 10 n)

/-- The characters of a number lie between 0 and 9. -/
theorem bounds_of_mem_toDigits {n : Nat} {c : Char} (member : c ∈ Nat.toDigits 10 n) :
    48 ≤ c.toNat ∧ c.toNat ≤ 57 := by
  have digit := Nat.isDigit_of_mem_toDigits (by decide) (by decide) member
  simp only [Char.isDigit, Bool.and_eq_true, decide_eq_true_eq] at digit
  exact digit

/-- The bytes of a number are those of its characters. -/
theorem digits_eq (n : Nat) :
    digits n = (Nat.toDigits 10 n).map fun c => UInt8.ofNat c.toNat :=
  Text.utf8_ascii fun c member => by
    have bounds := bounds_of_mem_toDigits member
    omega

theorem isDigit_digits (n : Nat) : ∀ b ∈ digits n, isDigit b = true := by
  intro b member
  rw [digits_eq] at member
  obtain ⟨c, found, rfl⟩ := List.mem_map.1 member
  have bounds := bounds_of_mem_toDigits found
  have byte : (UInt8.ofNat c.toNat).toNat = c.toNat := Text.toNat_byte (by omega)
  simp only [isDigit, Bool.and_eq_true, decide_eq_true_eq, UInt8.le_iff_toNat_le, byte]
  exact bounds

/-- A number is the value of its digits. -/
theorem digitsValue_digits (n : Nat) : digitsValue 0 (digits n) = n := by
  have step : ∀ (cs : List Char), (∀ c ∈ cs, c.toNat ≤ 57) → ∀ start,
      (cs.map fun c => UInt8.ofNat c.toNat).foldl (fun n d => n * 10 + (d.toNat - 0x30)) start =
        Nat.ofDigitChars 10 cs start := by
    intro cs
    induction cs with
    | nil => intro _ start; rfl
    | cons c cs ih =>
      intro low start
      have here := low c List.mem_cons_self
      have byte : (UInt8.ofNat c.toNat).toNat = c.toNat := Text.toNat_byte (by omega)
      rw [List.map_cons, List.foldl_cons, ih fun d member => low d (List.mem_cons_of_mem _ member),
        Nat.ofDigitChars_cons, byte, Nat.mul_comm start]
      rfl
  rw [digitsValue, digits_eq, step _ fun c member => (bounds_of_mem_toDigits member).2,
    Nat.ofDigitChars_ten_toDigits]

/-- No number of two digits or more begins with a zero. -/
theorem digits_ne_zero_cons (n : Nat) (d : UInt8) (rest : List UInt8) :
    digits n ≠ 0x30 :: d :: rest := by
  intro zero
  rw [digits_eq] at zero
  obtain ⟨c, cs, chars, first, more⟩ := List.map_eq_cons_iff.1 zero
  have filled : 0 < cs.length := by
    have lengths := congrArg List.length more
    simp only [List.length_map, List.length_cons] at lengths
    omega
  have bounds := bounds_of_mem_toDigits (chars ▸ List.mem_cons_self)
  have leading : c.toNat - '0'.toNat = 0 := by
    have number := congrArg UInt8.toNat first
    rw [Text.toNat_byte (by omega)] at number
    have zero : '0'.toNat = 48 := rfl
    have byte : (0x30 : UInt8).toNat = 48 := rfl
    omega
  have value : Nat.ofDigitChars 10 cs 0 = n := by
    have whole := Nat.ofDigitChars_ten_toDigits (n := n)
    rw [chars, Nat.ofDigitChars_cons, leading] at whole
    exact whole
  have small : n < 10 ^ cs.length := by
    have others : ∀ e ∈ cs, e.isDigit = true := fun e member =>
      Nat.isDigit_of_mem_toDigits (by decide) (by decide) (chars ▸ List.mem_cons_of_mem _ member)
    have below := Instant.ofDigitChars_lt others
    rwa [value] at below
  have short := (Nat.length_toDigits_le_iff (by decide) filled).2 small
  rw [chars, List.length_cons] at short
  omega

theorem digits_ne_nil (n : Nat) : digits n ≠ [] := by
  rw [digits_eq, ne_eq, List.map_eq_nil_iff]
  exact Nat.toDigits_ne_nil

/-- The run of digits ends where the number does. -/
theorem digitRun_digits (n : Nat) {rest : List UInt8} (stops : Stops rest) :
    digitRun (digits n ++ rest) = (digits n, rest) := by
  have others : ∀ b ∈ rest.head?, isDigit b = false := by
    intro b member
    rcases stops b member with rfl | rfl | rfl <;> rfl
  have end' : rest.takeWhile isDigit = [] ∧ rest.dropWhile isDigit = rest := by
    cases rest with
    | nil => exact ⟨rfl, rfl⟩
    | cons b rest => simp [others b rfl]
  rw [digitRun, List.takeWhile_append_of_pos (isDigit_digits n),
    List.dropWhile_append_of_pos (isDigit_digits n), end'.1, end'.2, List.append_nil]

/-- Behind a whole number there is neither a fraction nor an exponent. -/
theorem takeFraction_stops (n : Numeral) {rest : List UInt8} (stops : Stops rest) :
    takeFraction n rest = .ok (n, rest) := by
  cases rest with
  | nil => rfl
  | cons b rest => rcases stops b rfl with rfl | rfl | rfl <;> rfl

/-- The digits of a number are taken for one numeral. -/
theorem takeNumeral_digits (negative : Bool) (n : Nat) {rest : List UInt8} (stops : Stops rest) :
    takeNumeral negative (digits n ++ rest) =
      .ok (⟨negative, digits n, none, none⟩, rest) := by
  have notZero := digits_ne_zero_cons n
  rw [takeNumeral, digitRun_digits n stops]
  dsimp only
  split
  · next none => exact absurd none (digits_ne_nil n)
  · next zero => exact absurd zero (notZero _ _)
  · exact takeFraction_stops _ stops

/-- A natural number of sixty-four bits keeps its value. -/
theorem value_digits (n : Nat) (small : n < Nat.pow 2 64) :
    Numeral.value ⟨false, digits n, none, none⟩ = .ok (.whole n) := by
  simp [Numeral.value, digitsValue_digits, small]

/-- So does a negative number that has as many bits with its sign. -/
theorem value_negative {n : Nat} (pos : 0 < n) (small : n ≤ Nat.pow 2 63) :
    Numeral.value ⟨true, digits n, none, none⟩ = .ok (.whole (-n)) := by
  simp [Numeral.value, digitsValue_digits, small, pos]

end ResourceTree.Json.Token
