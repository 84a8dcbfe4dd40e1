import ResourceTree.Proofs.Text.Bytes
import ResourceTree.Url.Segments

/-!
# Escapes and what they spell

Where the percent sign is among the characters that are escaped, the escapes of a text spell its bytes, and
an escape never makes a text into one or two points: it does so only for a text that is points already.
-/

namespace ResourceTree.Url
set_option autoImplicit false

open Text (utf8 utf8_cons utf8_append utf8_nil bytes_eq)

/-- The bytes that a segment spells. -/
def spelled (segment : String) : List UInt8 := unescape segment.toUTF8.toList

variable {set : EscapeSet} {c : Char}

/-! ## Bytes -/

/-- An upper-case hexadecimal digit. -/
def upperDigit (n : Nat) : Char := (Nat.digitChar n).toUpper

/-- A byte is escaped by a percent sign and two upper case digits. -/
theorem escapeByte_eq (b : UInt8) :
    escapeByte b = ['%', upperDigit (b.toNat / 16), upperDigit (b.toNat % 16)] := rfl

theorem upperDigit_ascii {n : Nat} (less : n < 16) : (upperDigit n).toNat < 0x80 := by
  have each : ∀ n ∈ List.range 16, (upperDigit n).toNat < 0x80 := by decide
  exact each n (List.mem_range.2 less)

/-- An upper case digit is read back. -/
theorem hexDigit?_upperDigit {n : Nat} (less : n < 16) :
    hexDigit? (UInt8.ofNat (upperDigit n).toNat) = some (UInt8.ofNat n) := by
  have each : ∀ n ∈ List.range 16,
      hexDigit? (UInt8.ofNat (upperDigit n).toNat) = some (UInt8.ofNat n) := by decide
  exact each n (List.mem_range.2 less)

/-- A byte that is no percent sign stands for itself. -/
theorem unescape_cons_of_ne {b : UInt8} (other : b ≠ 0x25) (rest : List UInt8) :
    unescape (b :: rest) = b :: unescape rest := by
  rw [unescape]
  intro x y more same
  exact absurd same other

/-- An escaped byte is three bytes. -/
theorem utf8_escapeByte (b : UInt8) :
    utf8 (escapeByte b) = [0x25, UInt8.ofNat (upperDigit (b.toNat / 16)).toNat,
      UInt8.ofNat (upperDigit (b.toNat % 16)).toNat] := by
  have high : b.toNat / 16 < 16 := by have := b.toNat_lt; omega
  have low : b.toNat % 16 < 16 := Nat.mod_lt _ (by omega)
  rw [escapeByte_eq, Text.utf8_ascii]
  · rfl
  · intro c member
    rcases List.mem_cons.1 member with rfl | member
    · decide
    rcases List.mem_cons.1 member with rfl | member
    · exact upperDigit_ascii high
    · rw [List.mem_singleton.1 member]
      exact upperDigit_ascii low

/-- The escape of a byte spells it. -/
theorem unescape_escapeByte (b : UInt8) (rest : List UInt8) :
    unescape (utf8 (escapeByte b) ++ rest) = b :: unescape rest := by
  have high : b.toNat / 16 < 16 := by have := b.toNat_lt; omega
  have low : b.toNat % 16 < 16 := Nat.mod_lt _ (by omega)
  have whole : UInt8.ofNat (b.toNat / 16) * 16 + UInt8.ofNat (b.toNat % 16) = b := by
    refine UInt8.toNat_inj.1 ?_
    rw [UInt8.toNat_add, UInt8.toNat_mul, UInt8.toNat_ofNat', UInt8.toNat_ofNat']
    have := b.toNat_lt
    change (b.toNat / 16 % 256 * 16 % 256 + b.toNat % 16 % 256) % 256 = b.toNat
    omega
  rw [utf8_escapeByte, List.cons_append, List.cons_append, List.singleton_append, unescape,
    hexDigit?_upperDigit high, hexDigit?_upperDigit low]
  simp only [whole]

/-- Escaped bytes are given back. -/
theorem unescape_escapeBytes (bytes rest : List UInt8) :
    unescape (utf8 (bytes.flatMap escapeByte) ++ rest) = bytes ++ unescape rest := by
  induction bytes with
  | nil => rfl
  | cons b bytes ih =>
    rw [List.flatMap_cons, utf8_append, List.append_assoc, unescape_escapeByte, ih, List.cons_append]

/-! ## Characters -/

/-- A character that stands for itself. -/
def IsPlain (set : EscapeSet) (c : Char) : Prop := 0x20 ≤ c.toNat ∧ c.toNat ≤ 0x7E ∧ c ∉ set

/-- A plain character is not escaped. -/
theorem escapeChar_plain (plain : IsPlain set c) : escapeChar set c = [c] := by
  obtain ⟨low, high, free⟩ := plain
  rw [escapeChar, if_neg]
  simp only [List.contains_iff_mem, not_or]
  exact ⟨by omega, by omega, free⟩

/-- Any other character is escaped byte by byte. -/
theorem escapeChar_escaped (escaped : ¬ IsPlain set c) :
    escapeChar set c = (String.utf8EncodeChar c).flatMap escapeByte := by
  have bytes : (String.singleton c).toUTF8.toList = String.utf8EncodeChar c := by
    rw [bytes_eq, String.toList_singleton, utf8_cons, utf8_nil, List.append_nil]
  rw [escapeChar, if_pos, bytes]
  simp only [List.contains_iff_mem]
  by_contra outside
  simp only [not_or] at outside
  exact escaped ⟨by omega, by omega, outside.2.2⟩

/-- A character is given back, escaped or not, if percent signs are escaped. -/
theorem unescape_escapeChar (percent : '%' ∈ set) (c : Char) (rest : List UInt8) :
    unescape (utf8 (escapeChar set c) ++ rest) = String.utf8EncodeChar c ++ unescape rest := by
  by_cases plain : IsPlain set c
  · have ascii : c.toNat < 0x80 := by have := plain.2.1; omega
    have other : UInt8.ofNat c.toNat ≠ 0x25 := by
      intro same
      have number : c.toNat = 0x25 := by
        rw [← Text.toNat_byte ascii, same]
        rfl
      have sign : c = '%' := Char.toNat_inj.1 number
      exact plain.2.2 (sign ▸ percent)
    rw [escapeChar_plain plain, utf8_cons, utf8_nil, List.append_nil, Text.utf8EncodeChar_ascii ascii,
      List.singleton_append, List.singleton_append, unescape_cons_of_ne other]
  · rw [escapeChar_escaped plain, unescape_escapeBytes]

/-- Escapes spell the bytes of the text. -/
theorem spelled_escape (percent : '%' ∈ set) (s : List Char) : spelled (escape set s) = utf8 s := by
  rw [spelled, bytes_eq, escape, String.toList_ofList]
  induction s with
  | nil => rfl
  | cons c s ih =>
    rw [List.flatMap_cons, utf8_append, unescape_escapeChar percent, ih, utf8_cons]

/-- Different characters have different bytes. -/
theorem utf8_inj {s t : List Char} (same : utf8 s = utf8 t) : s = t := by
  have texts : String.ofList s = String.ofList t := by
    apply Option.some.inj
    rw [← Text.fromUTF8?_bytes, ← Text.fromUTF8?_bytes, bytes_eq, bytes_eq, String.toList_ofList,
      String.toList_ofList, same]
  rw [← String.toList_ofList (l := s), texts, String.toList_ofList]

/-- Texts that are escaped alike are one text, if percent signs are escaped. -/
theorem escape_inj (percent : '%' ∈ set) {s t : List Char} (same : escape set s = escape set t) :
    s = t := by
  have spelling := congrArg spelled same
  rw [spelled_escape percent, spelled_escape percent] at spelling
  exact utf8_inj spelling

/-! ## Points -/

/-- A text that begins neither with a point nor with the escape of one is not made of points. -/
theorem pointCount?_eq_none {s : List Char} (some : s ≠ []) (noPoint : ∀ rest, s ≠ '.' :: rest)
    (noEscape : ∀ rest, s ≠ '%' :: '2' :: rest) : pointCount? s = none := by
  rw [pointCount?]
  · exact some
  · exact fun rest same => noPoint rest same
  · exact fun c rest same => noEscape (c :: rest) same

/-- The escape of a byte other than that of a point is no point. -/
theorem pointCount?_escapeByte {b : UInt8} (other : b ≠ 0x2E) (rest : List Char) :
    pointCount? (escapeByte b ++ rest) = none := by
  have each : ∀ high ∈ List.range 16, ∀ low ∈ List.range 16, upperDigit high = '2' →
      upperDigit low = 'e' ∨ upperDigit low = 'E' → high = 2 ∧ low = 14 := by
    decide
  have high : b.toNat / 16 ∈ List.range 16 := List.mem_range.2 (by have := b.toNat_lt; omega)
  have low : b.toNat % 16 ∈ List.range 16 := List.mem_range.2 (Nat.mod_lt _ (by omega))
  rw [escapeByte_eq, List.cons_append, List.cons_append, List.singleton_append]
  by_cases two : upperDigit (b.toNat / 16) = '2'
  · rw [two, pointCount?, if_neg]
    intro letter
    obtain ⟨h, l⟩ := each _ high _ low two letter
    have number : b.toNat = (0x2E : UInt8).toNat := by
      rw [show (0x2E : UInt8).toNat = 46 from rfl]
      omega
    exact other (UInt8.toNat_inj.1 number)
  · refine pointCount?_eq_none (by simp) (fun _ => by simp) fun more same => ?_
    rw [List.cons.injEq, List.cons.injEq] at same
    exact two same.2.1

/-- A character that is no point is not read as one when it is escaped. -/
theorem pointCount?_escapeChar (percent : '%' ∈ set) (other : c ≠ '.') (rest : List Char) :
    pointCount? (escapeChar set c ++ rest) = none := by
  by_cases plain : IsPlain set c
  · rw [escapeChar_plain plain, List.singleton_append]
    refine pointCount?_eq_none (by simp) (fun more same => ?_) fun more same => ?_
    · exact other (List.cons.inj same).1
    · exact plain.2.2 ((List.cons.inj same).1 ▸ percent)
  · obtain ⟨b, bytes, spelling, apart⟩ : ∃ b bytes, String.utf8EncodeChar c = b :: bytes ∧ b ≠ 0x2E := by
      by_cases ascii : c.toNat < 0x80
      · refine ⟨_, [], Text.utf8EncodeChar_ascii ascii, fun same => other (Char.toNat_inj.1 ?_)⟩
        rw [← Text.toNat_byte ascii, same]
        rfl
      · have high := Text.utf8EncodeChar_high (Nat.le_of_not_lt ascii)
        cases spelling : String.utf8EncodeChar c with
        | nil => exact absurd spelling (List.ne_nil_of_length_pos (by
            rw [String.length_utf8EncodeChar]; exact c.utf8Size_pos))
        | cons b bytes =>
          refine ⟨b, bytes, rfl, ?_⟩
          rintro rfl
          rw [spelling] at high
          exact absurd (high 0x2E List.mem_cons_self) (by decide)
    rw [escapeChar_escaped plain, spelling, List.flatMap_cons, List.append_assoc,
      pointCount?_escapeByte apart]

/-- Only points are points when they are escaped. -/
theorem pointCount?_escape (percent : '%' ∈ set) (point : '.' ∉ set) (s : List Char) (count : Nat) :
    pointCount? (s.flatMap (escapeChar set)) = some count ↔ s = List.replicate count '.' := by
  induction s generalizing count with
  | nil =>
    rw [List.flatMap_nil, pointCount?, Option.some_inj]
    cases count <;> simp [List.replicate_succ]
  | cons c s ih =>
    by_cases same : c = '.'
    · subst same
      have plain : IsPlain set '.' := ⟨by decide, by decide, point⟩
      rw [List.flatMap_cons, escapeChar_plain plain, List.singleton_append, pointCount?,
        Option.map_eq_some_iff]
      cases count with
      | zero => simp
      | succ count => simp [ih, List.replicate_succ]
    · rw [List.flatMap_cons, pointCount?_escapeChar percent same]
      cases count <;> simp [List.replicate_succ, same]

/-- An escaped text is the step to the same place only if it is one point. -/
theorem isHere_escape (percent : '%' ∈ set) (point : '.' ∉ set) (s : List Char) :
    isHere (escape set s) = true ↔ s = ['.'] := by
  rw [isHere, decide_eq_true_iff, escape, String.toList_ofList, pointCount?_escape percent point]
  rfl

/-- An escaped text is the step back only if it is two points. -/
theorem isBack_escape (percent : '%' ∈ set) (point : '.' ∉ set) (s : List Char) :
    isBack (escape set s) = true ↔ s = ['.', '.'] := by
  rw [isBack, decide_eq_true_iff, escape, String.toList_ofList, pointCount?_escape percent point]
  rfl

end ResourceTree.Url
