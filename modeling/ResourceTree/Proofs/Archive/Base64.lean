import ResourceTree.Archive.Base64

/-!
# Base64 read back

The text of some bytes is read as these bytes. It consists of whole groups of four symbols, none of
which is blank or a brace.
-/

namespace ResourceTree.Archive.Base64
set_option autoImplicit false

/-- A symbol is read as the six bits it stands for. -/
theorem value?_symbol {n : Nat} (small : n < 64) : value? (symbol n) = some n := by
  have all : ∀ n : Fin 64, value? (symbol n) = some n.val := by decide
  exact all ⟨n, small⟩

/-- No symbol is mistaken for padding. -/
theorem symbol_beq_pad {n : Nat} (small : n < 64) : (symbol n == pad) = false := by
  have all : ∀ n : Fin 64, (symbol n == pad) = false := by decide
  exact all ⟨n, small⟩

theorem valueAt_symbol {n : Nat} (small : n < 64) (offset : Nat) :
    valueAt offset (symbol n) = .ok n := by
  rw [valueAt, value?_symbol small]

/-! ## Groups -/

/-- Two symbols give one byte. -/
theorem groupBytes_two (a : UInt8) :
    groupBytes [a.toNat * 16 / 64, a.toNat * 16 % 64] = [a] := by
  have bound := a.toNat_lt
  simp only [groupBytes, List.cons.injEq, and_true, ← UInt8.toNat_inj, UInt8.toNat_ofNat']
  omega

/-- Three symbols give two bytes. -/
theorem groupBytes_three (a b : UInt8) :
    let n := (a.toNat * 256 + b.toNat) * 4
    groupBytes [n / 4096, n / 64 % 64, n % 64] = [a, b] := by
  have boundA := a.toNat_lt
  have boundB := b.toNat_lt
  simp only [groupBytes, List.cons.injEq, and_true, ← UInt8.toNat_inj, UInt8.toNat_ofNat']
  omega

/-- Four symbols give three bytes. -/
theorem groupBytes_four (a b c : UInt8) :
    let n := (a.toNat * 256 + b.toNat) * 256 + c.toNat
    groupBytes [n / 262144, n / 4096 % 64, n / 64 % 64, n % 64] = [a, b, c] := by
  have boundA := a.toNat_lt
  have boundB := b.toNat_lt
  have boundC := c.toNat_lt
  simp only [groupBytes, List.cons.injEq, and_true, ← UInt8.toNat_inj, UInt8.toNat_ofNat']
  omega

theorem lastValues_symbol {n : Nat} (small : n < 64) {offset place : Nat} {rest : List UInt8}
    {values : List Nat} {pads : Nat}
    (read : lastValues offset none rest (place + 1) = .ok (values, pads)) :
    lastValues offset none (symbol n :: rest) place = .ok (n :: values, pads) := by
  rw [lastValues, symbol_beq_pad small, if_neg Bool.false_ne_true]
  simp only [valueAt_symbol small, read]
  rfl

/-- The last group is taken if it is filled up and its spare bits are zero. -/
theorem decodeLast_eq_ok {offset : Nat} {group : List UInt8} {values : List Nat} {pads : Nat}
    (read : lastValues offset none group 0 = .ok (values, pads)) (enough : 2 ≤ values.length)
    (full : (values.length + pads) % 4 = 0) (spare : spareBits values = 0) :
    decodeLast offset group = .ok (groupBytes values) := by
  have many : ¬ values.length < 2 := by omega
  simp only [decodeLast, read, bind, Except.bind, many, full, spare, decide_false, Bool.false_and,
    bne_self_eq_false, Bool.false_eq_true, if_false]

theorem encode_cons (a : UInt8) (rest : List UInt8) : ∃ b more, encode (a :: rest) = b :: more := by
  match rest with
  | [] => exact ⟨_, _, rfl⟩
  | [_] => exact ⟨_, _, rfl⟩
  | _ :: _ :: _ => exact ⟨_, _, rfl⟩

/-- Encoded bytes are decoded group by group, the last one with its padding. -/
theorem decodeGroups_encode (bytes : List UInt8) (offset : Nat) :
    decodeGroups offset (encode bytes) = .ok bytes := by
  induction bytes using encode.induct generalizing offset with
  | case1 => rfl
  | case2 a =>
    have bound := a.toNat_lt
    have read : lastValues offset none (encode [a]) 0 = .ok (_, 2) :=
      lastValues_symbol (by omega) (lastValues_symbol (by omega) rfl)
    exact (decodeLast_eq_ok read (by simp) (by simp) (by simp only [spareBits]; omega)).trans
      (congrArg _ (groupBytes_two a))
  | case3 a b =>
    have boundA := a.toNat_lt
    have boundB := b.toNat_lt
    have read : lastValues offset none (encode [a, b]) 0 = .ok (_, 1) :=
      lastValues_symbol (by omega) (lastValues_symbol (by omega) (lastValues_symbol (by omega) rfl))
    exact (decodeLast_eq_ok read (by simp) (by simp) (by simp only [spareBits]; omega)).trans
      (congrArg _ (groupBytes_three a b))
  | case4 a b c rest ih =>
    have boundA := a.toNat_lt
    have boundB := b.toNat_lt
    have boundC := c.toNat_lt
    cases rest with
    | nil =>
      have read : lastValues offset none (encode [a, b, c]) 0 = .ok (_, 0) :=
        lastValues_symbol (by omega) (lastValues_symbol (by omega)
          (lastValues_symbol (by omega) (lastValues_symbol (by omega) rfl)))
      exact (decodeLast_eq_ok read (by simp) (by simp) rfl).trans
        (congrArg _ (groupBytes_four a b c))
    | cons d rest =>
      obtain ⟨e, more, text⟩ := encode_cons d rest
      have read := ih (offset + 4)
      have group := groupBytes_four a b c
      rw [encode, text, decodeGroups, valueAt_symbol (by omega), valueAt_symbol (by omega),
        valueAt_symbol (by omega), valueAt_symbol (by omega), ← text, read]
      exact congrArg (fun bytes => Except.ok (bytes ++ d :: rest)) group

/-! ## Whole texts -/

theorem length_encode (bytes : List UInt8) : (encode bytes).length % 4 = 0 := by
  induction bytes using encode.induct with
  | case1 => rfl
  | case2 a => simp [encode]
  | case3 a b => simp [encode]
  | case4 a b c rest ih => simp only [encode, List.length_cons]; omega

/-- Encoded bytes are decoded as they were. -/
theorem decode_encode (bytes : List UInt8) : decode (encode bytes) = .ok bytes := by
  simp only [decode]
  rw [if_neg, decodeGroups_encode]
  cases (encode bytes).getLast? with
  | none => simp
  | some b => simp [length_encode]

/-- Every symbol is a character between the space and the brace. -/
theorem symbol_printable (n : Nat) : 0x20 < (symbol n).toNat ∧ (symbol n).toNat < 0x7B := by
  rw [symbol, UInt8.toNat_ofNat']
  split
  · omega
  split
  · omega
  split
  · omega
  split <;> omega

/-- A text consists of printable bytes, and braces are not among them. -/
theorem encode_printable (bytes : List UInt8) :
    ∀ b ∈ encode bytes, 0x20 < b.toNat ∧ b.toNat < 0x7B := by
  induction bytes using encode.induct with
  | case1 => simp [encode]
  | case2 a => simp [encode, symbol_printable, pad]
  | case3 a b => simp [encode, symbol_printable, pad]
  | case4 a b c rest ih => simpa [encode, symbol_printable] using ih

end ResourceTree.Archive.Base64
