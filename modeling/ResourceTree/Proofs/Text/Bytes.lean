import ResourceTree.Text.Blank
import Mathlib.Data.List.TakeWhile

/-!
# Texts as bytes, and blanks around them

The UTF-8 bytes of a text are those of its characters, one after the other, and a text is made of
them again. What stands between blanks is all that trimming leaves.
-/

namespace ResourceTree.Text
set_option autoImplicit false

/-! ## Bytes -/

/-- The UTF-8 bytes of some characters. -/
def utf8 (cs : List Char) : List UInt8 := cs.flatMap String.utf8EncodeChar

@[simp] theorem utf8_nil : utf8 [] = [] := rfl

@[simp] theorem utf8_cons (c : Char) (cs : List Char) :
    utf8 (c :: cs) = String.utf8EncodeChar c ++ utf8 cs := List.flatMap_cons

/-- Characters behind others have their bytes behind those of the others. -/
@[simp] theorem utf8_append (cs ds : List Char) : utf8 (cs ++ ds) = utf8 cs ++ utf8 ds :=
  List.flatMap_append

theorem toList_loop (bytes : ByteArray) (i : Nat) (done : List UInt8) :
    ByteArray.toList.loop bytes i done = done.reverse ++ bytes.data.toList.drop i := by
  fun_induction ByteArray.toList.loop bytes i done with
  | case1 i done inside ih =>
    have inside' : i < bytes.data.toList.length := by simpa using inside
    rw [ih, List.drop_eq_getElem_cons inside']
    simp [ByteArray.get!, inside]
  | case2 i done outside =>
    rw [List.drop_eq_nil_of_le (by simpa using Nat.le_of_not_lt outside), List.append_nil]

/-- The bytes of an array are those it holds, in order. -/
theorem toList_eq_data (bytes : ByteArray) : bytes.toList = bytes.data.toList := by
  simp [ByteArray.toList, toList_loop]

/-- The bytes of a text are those of its characters. -/
theorem bytes_eq (s : String) : s.toUTF8.toList = utf8 s.toList := by
  have whole : s.toUTF8 = s.toList.utf8Encode := by
    rw [← String.toByteArray_ofList, String.ofList_toList]
    rfl
  rw [whole, toList_eq_data, List.utf8Encode, List.toList_data_toByteArray]
  rfl

/-- A text is given back by its bytes. -/
theorem fromUTF8?_bytes (s : String) :
    String.fromUTF8? (ByteArray.mk s.toUTF8.toList.toArray) = some s := by
  have same : ByteArray.mk s.toUTF8.toList.toArray = s.toUTF8 := by
    rw [toList_eq_data, Array.toArray_toList]
  rw [same, String.fromUTF8?, String.toUTF8_eq_toByteArray, dif_pos s.isValidUTF8]
  rfl

/-! ## Characters of one byte -/

theorem toNat_ofNat {n : Nat} (small : n < 0xD800) : (Char.ofNat n).toNat = n := by
  rw [Char.ofNat, dif_pos (.inl small)]
  rfl

theorem toNat_byte {c : Char} (ascii : c.toNat < 0x80) : (UInt8.ofNat c.toNat).toNat = c.toNat := by
  rw [UInt8.toNat_ofNat']
  omega

/-- A character below 128 is one byte. -/
theorem utf8EncodeChar_ascii {c : Char} (ascii : c.toNat < 0x80) :
    String.utf8EncodeChar c = [UInt8.ofNat c.toNat] := by
  have small : c.val.toNat ≤ 127 := Nat.le_of_lt_succ ascii
  rw [String.utf8EncodeChar]
  simp only [small, if_true]
  rfl

/-- So are all characters of a text that has no others. -/
theorem utf8_ascii {cs : List Char} (ascii : ∀ c ∈ cs, c.toNat < 0x80) :
    utf8 cs = cs.map fun c => UInt8.ofNat c.toNat := by
  induction cs with
  | nil => rfl
  | cons c cs ih =>
    rw [utf8_cons, utf8EncodeChar_ascii (ascii c List.mem_cons_self),
      ih fun d member => ascii d (List.mem_cons_of_mem _ member)]
    rfl

/-- The bytes of any other character stand for no character of their own. -/
theorem utf8EncodeChar_high {c : Char} (high : 0x80 ≤ c.toNat) :
    ∀ b ∈ String.utf8EncodeChar c, 0x80 ≤ b.toNat := by
  have large : ¬ c.val.toNat ≤ 127 := Nat.not_le_of_gt high
  have byte : ∀ k m : Nat, 0x80 ≤ m → k + m < 0x100 → 0x80 ≤ (UInt8.ofNat (k + m)).toNat := by
    intro k m low up
    rw [UInt8.toNat_ofNat']
    omega
  rw [String.utf8EncodeChar]
  simp only [large, if_false]
  split
  · simp only [List.forall_mem_cons, List.not_mem_nil, false_implies, implies_true, and_true]
    exact ⟨byte _ _ (by omega) (by omega), byte _ _ (by omega) (by omega)⟩
  split
  · simp only [List.forall_mem_cons, List.not_mem_nil, false_implies, implies_true, and_true]
    exact ⟨byte _ _ (by omega) (by omega), byte _ _ (by omega) (by omega),
      byte _ _ (by omega) (by omega)⟩
  · simp only [List.forall_mem_cons, List.not_mem_nil, false_implies, implies_true, and_true]
    exact ⟨byte _ _ (by omega) (by omega), byte _ _ (by omega) (by omega),
      byte _ _ (by omega) (by omega), byte _ _ (by omega) (by omega)⟩

/-- Bytes below 128 are the bytes of the characters with their numbers. -/
theorem utf8_ofBytes {bytes : List UInt8} (ascii : ∀ b ∈ bytes, b.toNat < 0x80) :
    utf8 (bytes.map fun b => Char.ofNat b.toNat) = bytes := by
  induction bytes with
  | nil => rfl
  | cons b bytes ih =>
    have here := ascii b List.mem_cons_self
    have char : (Char.ofNat b.toNat).toNat = b.toNat := toNat_ofNat (by omega)
    rw [List.map_cons, utf8_cons, utf8EncodeChar_ascii (by omega), char, UInt8.ofNat_toNat,
      ih fun b member => ascii b (List.mem_cons_of_mem _ member)]
    rfl

/-! ## Blanks around a text -/

/-- A text that neither begins nor ends with a blank. -/
structure Bare (cs : List Char) : Prop where
  first : ∀ c ∈ cs.head?, isBlank c = false
  last : ∀ c ∈ cs.getLast?, isBlank c = false

theorem dropWhile_blank {before : List Char} (blank : ∀ c ∈ before, isBlank c = true)
    {cs : List Char} (first : ∀ c ∈ cs.head?, isBlank c = false) :
    (before ++ cs).dropWhile isBlank = cs := by
  rw [List.dropWhile_append_of_pos blank]
  cases cs with
  | nil => rfl
  | cons c cs => rw [List.dropWhile_cons_of_neg (by simp [first c rfl])]

/-- Blanks around characters that begin and end with none are trimmed. -/
theorem trimChars_padded {before cs after : List Char} (bare : Bare cs)
    (blankBefore : ∀ c ∈ before, isBlank c = true) (blankAfter : ∀ c ∈ after, isBlank c = true) :
    trimChars (before ++ cs ++ after) = cs := by
  cases cs with
  | nil =>
    have blank : ∀ c ∈ before ++ [] ++ after, isBlank c = true := by
      simpa [or_imp, forall_and] using ⟨blankBefore, blankAfter⟩
    rw [trimChars, List.dropWhile_eq_nil_iff.2 blank]
    rfl
  | cons c cs =>
    have front : (before ++ (c :: cs ++ after)).dropWhile isBlank = c :: cs ++ after :=
      dropWhile_blank blankBefore bare.first
    have back : (after.reverse ++ (c :: cs).reverse).dropWhile isBlank = (c :: cs).reverse :=
      dropWhile_blank (fun c member => blankAfter c (List.mem_reverse.1 member))
        (by rw [List.head?_reverse]; exact bare.last)
    rw [trimChars, List.append_assoc, front, List.reverse_append, back, List.reverse_reverse]

/-- Blanks around a text that begins and ends with none are trimmed. -/
theorem trim_padded {before s after : String} (bare : Bare s.toList)
    (blankBefore : ∀ c ∈ before.toList, isBlank c = true)
    (blankAfter : ∀ c ∈ after.toList, isBlank c = true) : trim (before ++ s ++ after) = s := by
  rw [trim, String.toList_append, String.toList_append,
    trimChars_padded bare blankBefore blankAfter, String.ofList_toList]

/-- Trimming leaves no blank at an end. -/
theorem bare_trimChars (cs : List Char) : Bare (trimChars cs) := by
  have stops (ds : List Char) : ∀ c ∈ (ds.dropWhile isBlank).head?, isBlank c = false := by
    intro c first
    have stop := List.head?_dropWhile_not isBlank ds
    rw [Option.mem_def.1 first] at stop
    exact stop
  constructor
  · intro c first
    obtain ⟨after, eq⟩ : trimChars cs <+: cs.dropWhile isBlank := by
      rw [trimChars, ← List.reverse_suffix, List.reverse_reverse]
      exact List.dropWhile_suffix isBlank
    refine stops cs c ?_
    rw [← eq, List.head?_append, Option.mem_def.1 first]
    rfl
  · intro c last
    rw [trimChars, List.getLast?_reverse] at last
    exact stops _ c last

/-- Trimming brings no character in. -/
theorem mem_of_mem_trimChars {c : Char} {cs : List Char} (member : c ∈ trimChars cs) : c ∈ cs := by
  rw [trimChars, List.mem_reverse] at member
  have inner := (List.dropWhile_sublist isBlank).mem member
  exact (List.dropWhile_sublist isBlank).mem (List.mem_reverse.1 inner)

/-- A text without blanks at its ends is not trimmed. -/
theorem trim_of_bare {s : String} (bare : Bare s.toList) : trim s = s := by
  have padded := @trim_padded "" s "" bare (by simp) (by simp)
  simpa using padded

end ResourceTree.Text
