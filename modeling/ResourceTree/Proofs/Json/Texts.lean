import ResourceTree.Json.Printer
import ResourceTree.Json.Token
import ResourceTree.Proofs.Text.Bytes

/-!
# Texts in JSON

A text between quotes is cut off as one token that carries it, whatever follows. One character after
the other is read as it was printed: as an escape, or as its own bytes.
-/

namespace ResourceTree.Json.Token
set_option autoImplicit false

open Text (utf8)

/-- A byte that stands for itself between quotes. -/
def IsPlain (b : UInt8) : Prop := b ≠ 0x22 ∧ b ≠ 0x5C ∧ 0x20 ≤ b.toNat

theorem IsPlain.shown {b : UInt8} (plain : IsPlain b) : ¬ b < 0x20 := by
  rw [UInt8.lt_iff_toNat_lt]
  exact Nat.not_lt.2 plain.2.2

/-- A plain byte is read as itself. -/
theorem readText_byte {b : UInt8} (plain : IsPlain b) (done rest : List UInt8) :
    readText done (b :: rest) = readText (b :: done) rest := by
  rw [readText, if_neg plain.shown]
  all_goals simp [plain.1, plain.2.1]

/-- A plain byte is passed over. -/
theorem skipText_byte {b : UInt8} (plain : IsPlain b) (rest : List UInt8) :
    skipText (b :: rest) = skipText rest := by
  rw [skipText, if_neg plain.shown]
  all_goals simp [plain.1, plain.2.1]

/-- Plain bytes are read as they stand. -/
theorem readText_bytes {bytes : List UInt8} (plain : ∀ b ∈ bytes, IsPlain b)
    (done rest : List UInt8) :
    readText done (bytes ++ rest) = readText (bytes.reverse ++ done) rest := by
  induction bytes generalizing done with
  | nil => rfl
  | cons b bytes ih =>
    rw [List.cons_append, readText_byte (plain b List.mem_cons_self),
      ih (fun b member => plain b (List.mem_cons_of_mem _ member)), List.reverse_cons,
      List.append_assoc]
    rfl

/-- Plain bytes are passed over. -/
theorem skipText_bytes {bytes : List UInt8} (plain : ∀ b ∈ bytes, IsPlain b) (rest : List UInt8) :
    skipText (bytes ++ rest) = skipText rest := by
  induction bytes with
  | nil => rfl
  | cons b bytes ih =>
    rw [List.cons_append, skipText_byte (plain b List.mem_cons_self),
      ih (fun b member => plain b (List.mem_cons_of_mem _ member))]

/-- No short escape begins as a numbered one does. -/
theorem ne_of_escaped? {e b : UInt8} (short : escaped? e = some b) : e ≠ 0x75 := by
  rintro rfl
  cases short

/-- An escape of one letter is read as the byte it stands for. -/
theorem readText_short {e b : UInt8} (short : escaped? e = some b) (done rest : List UInt8) :
    readText done (0x5C :: e :: rest) = readText (b :: done) rest := by
  rw [readText, short]
  all_goals simp [ne_of_escaped? short]

theorem skipText_short {e b : UInt8} (short : escaped? e = some b) (rest : List UInt8) :
    skipText (0x5C :: e :: rest) = skipText rest := by
  rw [skipText, short, Option.isSome_some, if_pos rfl]
  all_goals simp [ne_of_escaped? short]

/-- An escape of four digits is read as the character of that code. -/
theorem readText_control {n : Nat} (small : n < 0x20) {h l : UInt8}
    (digits : hexFour? 0x30 0x30 h l = some n) (done rest : List UInt8) :
    readText done (0x5C :: 0x75 :: 0x30 :: 0x30 :: h :: l :: rest) =
      readText (utf8Reverse n ++ done) rest := by
  have single : (n < 0xD800 || 0xDBFF < n) = true := by
    rw [Bool.or_eq_true, decide_eq_true_eq]
    exact .inl (by omega)
  have notLow : (0xDC00 ≤ n && n ≤ 0xDFFF) = false := by
    rw [Bool.and_eq_false_iff, decide_eq_false_iff_not]
    exact .inl (by omega)
  rw [readText, digits]
  simp only [single, notLow, if_true, Bool.false_eq_true, if_false]

theorem skipText_control {n : Nat} {h l : UInt8} (digits : hexFour? 0x30 0x30 h l = some n)
    (rest : List UInt8) :
    skipText (0x5C :: 0x75 :: 0x30 :: 0x30 :: h :: l :: rest) = skipText rest := by
  rw [skipText, digits, Option.isSome_some, if_pos rfl]

/-! ## One character -/

/-- The forms in which a character is printed: by its own bytes, by a letter, or by its number. -/
inductive Printed (c : Char) : List UInt8 → Prop where
  | plain (bytes : ∀ b ∈ String.utf8EncodeChar c, IsPlain b) : Printed c (String.utf8EncodeChar c)
  | short {e b : UInt8} (letter : escaped? e = some b) (byte : String.utf8EncodeChar c = [b]) :
    Printed c [0x5C, e]
  | numbered {h l : UInt8} (small : c.toNat < 0x20)
    (digits : hexFour? 0x30 0x30 h l = some c.toNat) : Printed c [0x5C, 0x75, 0x30, 0x30, h, l]

/-- The last two digits of the number of a control character. -/
def controlDigits (n : Nat) : UInt8 × UInt8 :=
  (if n < 0x10 then 0x30 else 0x31,
    UInt8.ofNat (if n % 0x10 < 10 then 0x30 + n % 0x10 else 0x57 + n % 0x10))

/-- A control character without a letter of its own is printed with four digits that give it back. -/
theorem utf8_control : ∀ n : Fin 0x20, n.val ∉ [0x8, 0x9, 0xA, 0xC, 0xD] →
    hexFour? 0x30 0x30 (controlDigits n).1 (controlDigits n).2 = some n.val ∧
      utf8 (printChar (Char.ofNat n)) =
        [0x5C, 0x75, 0x30, 0x30, (controlDigits n).1, (controlDigits n).2] := by
  decide

/-- The five control characters with a letter of their own are printed with it. -/
theorem printed_short : ∀ n ∈ [0x8, 0x9, 0xA, 0xC, 0xD],
    Printed (Char.ofNat n) (utf8 (printChar (Char.ofNat n))) := by
  simp only [List.forall_mem_cons, List.not_mem_nil, false_implies, implies_true, and_true]
  exact ⟨.short (b := 0x8) rfl rfl, .short (b := 0x9) rfl rfl, .short (b := 0xA) rfl rfl,
    .short (b := 0xC) rfl rfl, .short (b := 0xD) rfl rfl⟩

/-- The bytes of a character that is printed as it is are plain. -/
theorem isPlain_utf8EncodeChar {c : Char} (shown : ¬ c.toNat < 0x20) (quote : c ≠ '"')
    (escape : c ≠ '\\') : ∀ b ∈ String.utf8EncodeChar c, IsPlain b := by
  have number : ∀ d : Char, c ≠ d → c.toNat ≠ d.toNat := fun d other same =>
    other (by rw [← Char.ofNat_toNat c, same, Char.ofNat_toNat])
  have notQuote : c.toNat ≠ 0x22 := number '"' quote
  have notEscape : c.toNat ≠ 0x5C := number '\\' escape
  have isPlain : ∀ b : UInt8, b.toNat ≠ 0x22 → b.toNat ≠ 0x5C → 0x20 ≤ b.toNat → IsPlain b :=
    fun b h₁ h₂ h₃ => ⟨fun same => h₁ (congrArg UInt8.toNat same),
      fun same => h₂ (congrArg UInt8.toNat same), h₃⟩
  by_cases ascii : c.toNat < 0x80
  · have byte := Text.toNat_byte ascii
    rw [Text.utf8EncodeChar_ascii ascii]
    intro b member
    cases List.mem_singleton.1 member
    exact isPlain _ (by rwa [byte]) (by rwa [byte]) (by omega)
  · intro b member
    have high := Text.utf8EncodeChar_high (Nat.not_lt.1 ascii) b member
    exact isPlain b (by omega) (by omega) (by omega)

/-- A character is printed in one of the three ways. -/
theorem printed_printChar (c : Char) : Printed c (utf8 (printChar c)) := by
  by_cases quote : c = '"'
  · subst quote
    exact .short (b := 0x22) rfl rfl
  by_cases escape : c = '\\'
  · subst escape
    exact .short (b := 0x5C) rfl rfl
  by_cases control : c.toNat < 0x20
  · by_cases short : c.toNat ∈ [0x8, 0x9, 0xA, 0xC, 0xD]
    · simpa only [Char.ofNat_toNat] using printed_short c.toNat short
    · obtain ⟨digits, bytes⟩ := utf8_control ⟨c.toNat, control⟩ short
      rw [Char.ofNat_toNat] at bytes
      rw [bytes]
      exact .numbered control digits
  · have apart : ∀ n < 0x20, c ≠ Char.ofNat n := by
      rintro n small rfl
      exact control (by rwa [Text.toNat_ofNat (by omega)])
    have whole : printChar c = [c] := by
      rw [printChar, if_neg quote, if_neg escape, if_neg (apart 0xA (by omega)),
        if_neg (apart 0xD (by omega)), if_neg (apart 0x9 (by omega)), if_neg (by omega),
        if_neg (by omega), if_neg control]
    rw [whole, Text.utf8_cons, Text.utf8_nil, List.append_nil]
    exact .plain (isPlain_utf8EncodeChar control quote escape)

theorem utf8Reverse_eq (c : Char) : utf8Reverse c.toNat = (String.utf8EncodeChar c).reverse := by
  rw [utf8Reverse, Char.ofNat_toNat, Text.bytes_eq]
  simp

/-- In each of the three ways it is read back as its bytes. -/
theorem readText_printed {c : Char} {bytes : List UInt8} (printed : Printed c bytes)
    (done rest : List UInt8) :
    readText done (bytes ++ rest) = readText ((String.utf8EncodeChar c).reverse ++ done) rest := by
  cases printed with
  | plain bytes => exact readText_bytes bytes done rest
  | short letter byte =>
    rw [byte]
    exact readText_short letter done rest
  | numbered small digits =>
    rw [← utf8Reverse_eq]
    exact readText_control small digits done rest

/-- In each of the three ways it is passed over. -/
theorem skipText_printed {c : Char} {bytes : List UInt8} (printed : Printed c bytes)
    (rest : List UInt8) : skipText (bytes ++ rest) = skipText rest := by
  cases printed with
  | plain bytes => exact skipText_bytes bytes rest
  | short letter byte => exact skipText_short letter rest
  | numbered small digits => exact skipText_control digits rest

/-! ## Whole texts -/

/-- A printed text is read back up to its closing quote. -/
theorem readText_print (cs : List Char) (done rest : List UInt8) :
    readText done (utf8 (cs.flatMap printChar) ++ 0x22 :: rest) =
      .ok (done.reverse ++ utf8 cs) := by
  induction cs generalizing done with
  | nil => simp [readText]
  | cons c cs ih =>
    rw [List.flatMap_cons, Text.utf8_append, List.append_assoc,
      readText_printed (printed_printChar c), ih]
    simp

/-- A printed text is passed over up to its closing quote. -/
theorem skipText_print (cs : List Char) (rest : List UInt8) :
    skipText (utf8 (cs.flatMap printChar) ++ 0x22 :: rest) = .ok rest := by
  induction cs with
  | nil => simp [skipText]
  | cons c cs ih =>
    rw [List.flatMap_cons, Text.utf8_append, List.append_assoc,
      skipText_printed (printed_printChar c), ih]

/-- A printed text is one token, with the text in it. -/
theorem takeText_print (s : String) (rest : List UInt8) :
    takeText (utf8 (s.toList.flatMap printChar) ++ 0x22 :: rest) = (.text (.ok s), rest) := by
  have content : decodeUtf8 (utf8 s.toList) = .ok s := by
    rw [decodeUtf8, ← Text.bytes_eq, Text.fromUTF8?_bytes]
  rw [takeText, skipText_print, readText_print]
  exact congrArg (fun content => (Token.text content, rest)) content

end ResourceTree.Json.Token
