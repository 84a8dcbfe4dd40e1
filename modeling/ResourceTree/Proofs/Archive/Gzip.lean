import ResourceTree.Archive.Gzip
import Mathlib.Tactic.Ring

/-!
# Gzip members read back

A member is read as the content that it was made with. Its stream consists of stored blocks, so the
argument is about the place of every byte among the bits: a block starts at a full byte, and the five
bits behind its head are passed over.
-/

namespace ResourceTree.Archive
set_option autoImplicit false

namespace Deflate

/-! ## Bits -/

/-- The number that bits spell, the low one first. -/
def weight (bits : Bits) : Nat := bits.foldr (fun b n => 2 * n + if b then 1 else 0) 0

/-- Bits are read as the number they weigh. -/
theorem number_append (bits rest : Bits) :
    number bits.length (bits ++ rest) = .ok (weight bits, rest) := by
  induction bits with
  | nil => rfl
  | cons b bits ih =>
    rw [List.length_cons, List.cons_append, number, ih]
    rfl

/-- Bits behind others weigh as much more as there are bits in front. -/
theorem weight_append (low high : Bits) :
    weight (low ++ high) = weight low + 2 ^ low.length * weight high := by
  induction low with
  | nil => simp [weight]
  | cons b low ih =>
    have step : ∀ bits, weight (b :: bits) = 2 * weight bits + if b then 1 else 0 := fun _ => rfl
    rw [List.cons_append, step, step, ih, List.length_cons, pow_succ]
    ring

/-- The bits of a byte weigh the byte. -/
theorem weight_byteBits (b : UInt8) : weight (byteBits b) = b.toNat := by
  have digit : ∀ n : Nat, (if (n % 2 == 1) = true then 1 else 0) = n % 2 := by
    intro n
    rcases Nat.mod_two_eq_zero_or_one n with h | h <;> rw [h] <;> rfl
  have spelled : ∀ n < 256, 2 * (2 * (2 * (2 * (2 * (2 * (2 * (2 * 0 + n / 128 % 2) + n / 64 % 2)
      + n / 32 % 2) + n / 16 % 2) + n / 8 % 2) + n / 4 % 2) + n / 2 % 2) + n / 1 % 2 = n := by
    decide +kernel
  simp only [weight, byteBits, List.range_succ, List.range_zero, List.nil_append, List.cons_append,
    List.map_cons, List.map_nil, List.foldr_cons, List.foldr_nil, digit, Nat.shiftRight_eq_div_pow,
    Nat.reducePow]
  exact spelled _ b.toNat_lt

theorem length_byteBits (b : UInt8) : (byteBits b).length = 8 := by
  simp [byteBits]

theorem length_bitsOf (bytes : List UInt8) : (bitsOf bytes).length = 8 * bytes.length := by
  induction bytes with
  | nil => rfl
  | cons b bytes ih =>
    rw [bitsOf, List.flatMap_cons, List.length_append, length_byteBits, ← bitsOf, ih,
      List.length_cons]
    omega

theorem bitsOf_cons (b : UInt8) (bytes : List UInt8) :
    bitsOf (b :: bytes) = byteBits b ++ bitsOf bytes := List.flatMap_cons

theorem bitsOf_append (front back : List UInt8) :
    bitsOf (front ++ back) = bitsOf front ++ bitsOf back :=
  List.flatMap_append

theorem number_byte (b : UInt8) (rest : Bits) :
    number 8 (byteBits b ++ rest) = .ok (b.toNat, rest) := by
  rw [← length_byteBits b, number_append, weight_byteBits]

/-- Two bytes are read as the number they were printed from, if that fits. -/
theorem number_twoBytes (n : Nat) (rest : Bits) :
    number 16 (bitsOf (twoBytes n) ++ rest) = .ok (n % 65536, rest) := by
  have spelled : weight (bitsOf (twoBytes n)) = n % 65536 := by
    simp only [twoBytes, bitsOf, List.flatMap_cons, List.flatMap_nil, List.append_nil,
      weight_append, weight_byteBits, length_byteBits, UInt8.toNat_ofNat']
    omega
  have read := number_append (bitsOf (twoBytes n)) rest
  rw [length_bitsOf, spelled] at read
  exact read

/-! ## Stored blocks -/

/-- Stored bytes are taken out one by one. -/
theorem take_bitsOf (bytes : List UInt8) (out : Array UInt8) (rest : Bits) :
    stored.take bytes.length out (bitsOf bytes ++ rest) = .ok (out ++ bytes.toArray, rest) := by
  induction bytes generalizing out with
  | nil => simp [stored.take, bitsOf]
  | cons b bytes ih =>
    rw [List.length_cons, stored.take, bitsOf_cons, List.append_assoc, number_byte]
    have next := ih (out.push b)
    simp only [bind, Except.bind, UInt8.ofNat_toNat, next]
    simp

/-- A block whose content is stored as it is. -/
def storedBlock (isLast : Bool) (chunk : List UInt8) : List UInt8 :=
  (if isLast then 1 else 0) :: twoBytes chunk.length ++ twoBytes (65535 - chunk.length) ++ chunk

/-- Bytes are stored in blocks of at most 65535, the last of which is marked. -/
theorem storedBlocks_succ (steps : Nat) (bytes : List UInt8) :
    storedBlocks (steps + 1) bytes =
      storedBlock (bytes.drop 65535).isEmpty (bytes.take 65535) ++
        if (bytes.drop 65535).isEmpty then [] else storedBlocks steps (bytes.drop 65535) := rfl

theorem length_storedBlock (isLast : Bool) (chunk : List UInt8) :
    (storedBlock isLast chunk).length = chunk.length + 5 := by
  simp [storedBlock, twoBytes]

/-- A block that is not the last takes at least one byte. -/
theorem length_drop_lt {bytes : List UInt8} {n : Nat} (room : bytes.length < n + 1)
    (more : ¬ (bytes.drop 65535).isEmpty = true) : (bytes.drop 65535).length < n := by
  simp only [List.isEmpty_iff, List.drop_eq_nil_iff, not_le] at more
  rw [List.length_drop]
  omega

/-- A stored block is read from a full byte on: three bits of its head, then the gap, then its
content. -/
theorem blocks_storedBlock {chunk : List UInt8} (short : chunk.length ≤ 65535) (isLast : Bool)
    {total : Nat} {rest : Bits}
    (start : (total - (bitsOf (storedBlock isLast chunk) ++ rest).length) % 8 = 0)
    (within : (bitsOf (storedBlock isLast chunk) ++ rest).length ≤ total) (steps : Nat)
    (out : Array UInt8) :
    blocks total (steps + 1) out (bitsOf (storedBlock isLast chunk) ++ rest) =
      if isLast then .ok (out ++ chunk.toArray, rest)
      else blocks total steps (out ++ chunk.toArray) rest := by
  let lengths := twoBytes chunk.length ++ twoBytes (65535 - chunk.length)
  let content := bitsOf (lengths ++ chunk) ++ rest
  have head : bitsOf (storedBlock isLast chunk) ++ rest =
      [isLast] ++ ([false, false] ++ (List.replicate 5 false ++ content)) := by
    cases isLast with
    | false => rfl
    | true => rfl
  have gap : (8 - (total - (List.replicate 5 false ++ content).length) % 8) % 8 = 5 := by
    rw [head] at start within
    simp only [List.length_append, List.length_cons, List.length_nil, List.length_replicate]
      at start within ⊢
    omega
  have sizes : chunk.length % 65536 = chunk.length ∧
      (65535 - chunk.length) % 65536 = 65535 - chunk.length := by omega
  have check : (chunk.length + (65535 - chunk.length) != 0xFFFF) = false := by
    rw [Nat.add_sub_cancel' short]; rfl
  have body : stored total out (List.replicate 5 false ++ content) =
      .ok (out ++ chunk.toArray, rest) := by
    rw [stored, gap]
    simp only [List.drop_left' List.length_replicate, content, lengths, bitsOf_append,
      List.append_assoc, number_twoBytes, sizes, bind, Except.bind, check, Bool.false_eq_true,
      if_false, take_bitsOf]
  have flag : number 1 ([isLast] ++ ([false, false] ++ (List.replicate 5 false ++ content))) =
      .ok (if isLast then 1 else 0, [false, false] ++ (List.replicate 5 false ++ content)) := by
    cases isLast with
    | false => rfl
    | true => rfl
  have type : number 2 ([false, false] ++ (List.replicate 5 false ++ content)) =
      .ok (0, List.replicate 5 false ++ content) := rfl
  rw [head, blocks, flag]
  simp only [bind, Except.bind, type, if_true, body]
  cases isLast with
  | false => rfl
  | true => rfl

/-- Stored blocks are read through to the last one, wherever they stand, as long as each begins with
a byte. -/
theorem blocks_storedBlocks {total : Nat} {rest : Bits} (out : Array UInt8) (n : Nat)
    {bytes : List UInt8} (room : bytes.length < n) {steps : Nat} (fuel : n ≤ steps)
    (start : (total - (bitsOf (storedBlocks n bytes) ++ rest).length) % 8 = 0)
    (within : (bitsOf (storedBlocks n bytes) ++ rest).length ≤ total) :
    blocks total steps out (bitsOf (storedBlocks n bytes) ++ rest)
      = .ok (out ++ bytes.toArray, rest) := by
  induction n generalizing bytes steps out with
  | zero => omega
  | succ n ih =>
    obtain ⟨steps, rfl⟩ : ∃ k, steps = k + 1 := ⟨steps - 1, by omega⟩
    rw [storedBlocks_succ, bitsOf_append, List.append_assoc] at start within ⊢
    have short : (bytes.take 65535).length ≤ 65535 := List.length_take_le _ _
    rw [blocks_storedBlock short _ start within]
    by_cases last : (bytes.drop 65535).isEmpty
    · have whole : bytes.take 65535 = bytes :=
        List.take_of_length_le (by simpa using last)
      simp [last, whole, bitsOf]
    · rw [if_neg last] at start within ⊢
      rw [if_neg last]
      have sizes := length_bitsOf (storedBlock (bytes.drop 65535).isEmpty (bytes.take 65535))
      rw [List.length_append, sizes] at start within
      have fewer := length_drop_lt room last
      have next := ih (out ++ (bytes.take 65535).toArray) fewer (Nat.le_of_succ_le_succ fuel)
        (by omega) (by omega)
      have parts : bytes.toArray = (bytes.take 65535).toArray ++ (bytes.drop 65535).toArray := by
        rw [← Array.toList_inj]
        simp
      rw [next, parts, Array.append_assoc]

theorem length_storedBlocks {n : Nat} {bytes : List UInt8} (room : bytes.length < n) :
    bytes.length ≤ (storedBlocks n bytes).length := by
  induction n generalizing bytes with
  | zero => omega
  | succ n ih =>
    rw [storedBlocks_succ, List.length_append, length_storedBlock]
    have parts := congrArg List.length (List.take_append_drop 65535 bytes)
    rw [List.length_append] at parts
    by_cases last : (bytes.drop 65535).isEmpty
    · have none : (bytes.drop 65535).length = 0 := List.length_eq_zero_iff.2 (List.isEmpty_iff.1 last)
      omega
    · have fewer := length_drop_lt room last
      have rest := ih fewer
      rw [if_neg last]
      omega

/-- Stored bytes are inflated to themselves, and what follows is left. -/
theorem inflate_pack (bytes rest : List UInt8) : inflate (pack bytes ++ rest) = .ok (bytes, rest) := by
  have room := length_storedBlocks (Nat.lt_add_one bytes.length)
  have fuel : bytes.length + 1 ≤ (bitsOf (pack bytes ++ rest)).length + 1 := by
    rw [length_bitsOf, List.length_append, pack]
    omega
  have bits : bitsOf (storedBlocks (bytes.length + 1) bytes) ++ bitsOf rest =
      bitsOf (pack bytes ++ rest) := (bitsOf_append _ _).symm
  have start : ((bitsOf (pack bytes ++ rest)).length
      - (bitsOf (storedBlocks (bytes.length + 1) bytes) ++ bitsOf rest).length) % 8 = 0 := by
    rw [bits, Nat.sub_self]
  have read := blocks_storedBlocks #[] _ (Nat.lt_add_one bytes.length) fuel start (by rw [bits])
  rw [bits] at read
  have behind : (pack bytes ++ rest).length - (bitsOf rest).length / 8 = (pack bytes).length := by
    rw [length_bitsOf, List.length_append]
    omega
  simp only [inflate, read, bind, Except.bind, behind, List.drop_left]
  simp [pure, Except.pure]

end Deflate

namespace Gzip

/-- Four bytes are read as the number they were printed from, up to its thirty-two bits. -/
theorem littleEndian_fourBytes (n : Nat) : littleEndian (fourBytes n) = n % Nat.pow 2 32 := by
  have size : Nat.pow 2 32 = 4294967296 := rfl
  simp only [littleEndian, fourBytes, Deflate.twoBytes, List.cons_append, List.nil_append,
    List.foldr_cons, List.foldr_nil, UInt8.toNat_ofNat', size]
  omega

theorem crc32_lt (bytes : List UInt8) : crc32 bytes < Nat.pow 2 32 := UInt32.toNat_lt _

theorem length_fourBytes (n : Nat) : (fourBytes n).length = 4 := rfl

/-- The header that is printed has none of the optional parts. -/
theorem skipHeader_plain (rest : List UInt8) :
    skipHeader ([0x1F, 0x8B, 0x08, 0, 0, 0, 0, 0, 0, 0xFF] ++ rest) = .ok rest := by
  have fixed : take 10 ([0x1F, 0x8B, 0x08, 0, 0, 0, 0, 0, 0, 0xFF] ++ rest) =
      .ok ([0x1F, 0x8B, 0x08, 0, 0, 0, 0, 0, 0, 0xFF], rest) := by
    simp [take]
  rw [skipHeader, fixed]
  rfl

/-- What was packed is unpacked, with its checksum and its length. -/
theorem unpack_pack (content : List UInt8) : unpack (pack content) = .ok content := by
  let trailer := fourBytes (crc32 content) ++ fourBytes content.length
  have header : skipHeader (pack content) = .ok (Deflate.pack content ++ trailer) := by
    rw [pack, List.append_assoc, List.append_assoc, skipHeader_plain]
  have end' : take 8 trailer = .ok (trailer, []) := rfl
  have check : littleEndian (trailer.take 4) = crc32 content := by
    rw [List.take_left' (length_fourBytes _), littleEndian_fourBytes,
      Nat.mod_eq_of_lt (crc32_lt content)]
  have size : littleEndian (trailer.drop 4) = content.length % Nat.pow 2 32 := by
    rw [List.drop_left' (length_fourBytes _), littleEndian_fourBytes]
  simp only [unpack, header, Deflate.inflate_pack, Except.mapError, end', bind, Except.bind, check,
    size, decide_true, Bool.and_self, if_true]

end Gzip

end ResourceTree.Archive
