import ResourceTree.Proofs.Json.Numbers
import ResourceTree.Proofs.Json.Texts

/-!
# The tokens of a printed value

A printed value is cut into the tokens that it consists of. What follows it is cut as if nothing had
stood before.
-/

namespace ResourceTree.Json
set_option autoImplicit false

open Text (utf8)
open Token (Stops)

namespace Value

mutual

/-- A value that a text holds without loss: whole numbers of sixty-four bits, and no key twice in
an object. -/
def Plain : Value → Prop
  | .number (.whole n) => -Nat.pow 2 63 ≤ n ∧ n < Nat.pow 2 64
  | .number (.double _) => False
  | .array items => PlainItems items
  | .object members => (members.map Prod.fst).Nodup ∧ PlainMembers members
  | _ => True

def PlainItems : List Value → Prop
  | [] => True
  | v :: rest => v.Plain ∧ PlainItems rest

def PlainMembers : List (String × Value) → Prop
  | [] => True
  | (_, v) :: rest => v.Plain ∧ PlainMembers rest

end

mutual

/-- The tokens that a value is printed as. -/
def tokens : Value → List Token
  | .null => [.null]
  | .bool b => [.bool b]
  | .number n => [.number (.ok n)]
  | .text s => [.text (.ok s)]
  | .array [] => [.openArray, .closeArray]
  | .array (v :: rest) => .openArray :: (v.tokens ++ tokensItems rest)
  | .object [] => [.openObject, .closeObject]
  | .object ((k, v) :: rest) =>
    .openObject :: .text (.ok k) :: .colon :: (v.tokens ++ tokensMembers rest)

def tokensItems : List Value → List Token
  | [] => [.closeArray]
  | v :: rest => .comma :: (v.tokens ++ tokensItems rest)

def tokensMembers : List (String × Value) → List Token
  | [] => [.closeObject]
  | (k, v) :: rest => .comma :: .text (.ok k) :: .colon :: (v.tokens ++ tokensMembers rest)

end

/-- The bytes that a value is printed as. -/
def bytes (v : Value) : List UInt8 := utf8 (printChars v)

end Value

namespace Token

/-! ## One token -/

/-- The bytes are cut into the tokens, and what follows them as if it stood alone. -/
structure Spells (s : List UInt8) (ts : List Token) (rest : List UInt8) : Prop where
  short : ts.length ≤ s.length
  scanned : ∀ k, scan (ts.length + k) (s ++ rest) = ts ++ scan k rest

/-- Bytes that spell some tokens, then bytes that spell others. -/
theorem Spells.append {s s' rest : List UInt8} {ts ts' : List Token} (first : Spells s ts (s' ++ rest))
    (second : Spells s' ts' rest) : Spells (s ++ s') (ts ++ ts') rest where
  short := by
    rw [List.length_append, List.length_append]
    exact Nat.add_le_add first.short second.short
  scanned k := by
    rw [List.length_append, Nat.add_assoc, List.append_assoc, first.scanned, second.scanned,
      List.append_assoc]

/-- A token that is taken from its first byte on is spelled by the bytes it takes up. -/
theorem spells_of_take {b : UInt8} {s rest : List UInt8} {t : Token} (space : isSpace b = false)
    (taken : take b (s ++ rest) = (t, rest)) : Spells (b :: s) [t] rest where
  short := Nat.succ_le_succ (Nat.zero_le _)
  scanned k := by
    have start : (b :: (s ++ rest)).dropWhile isSpace = b :: (s ++ rest) :=
      List.dropWhile_cons_of_neg (by simp [space])
    rw [List.length_singleton, Nat.add_comm, List.cons_append, scan, start]
    simp only [taken]
    rfl

/-- A printed text spells one token. -/
theorem spells_text (s : String) (rest : List UInt8) :
    Spells (utf8 (printText s)) [.text (.ok s)] rest := by
  have bytes : utf8 (printText s) = 0x22 :: (utf8 (s.toList.flatMap printChar) ++ [0x22]) := by
    rw [printText, Text.utf8_append, Text.utf8_append]
    rfl
  rw [bytes]
  refine spells_of_take rfl ?_
  rw [List.append_assoc]
  exact takeText_print s rest

/-- A digit begins a number. -/
theorem take_digit {b : UInt8} (digit : isDigit b = true) (s : List UInt8) :
    isSpace b = false ∧ take b s = takeNumber false (b :: s) := by
  have other : ∀ k : UInt8, isDigit k = false → (b == k) = false := by
    intro k notDigit
    rw [beq_eq_false_iff_ne]
    rintro rfl
    rw [digit] at notDigit
    cases notDigit
  constructor
  · simp only [isSpace, other 0x20 rfl, other 0x0A rfl, other 0x0D rfl, other 0x09 rfl, Bool.or_false]
  · simp only [take, other 0x5B rfl, other 0x5D rfl, other 0x7B rfl, other 0x7D rfl, other 0x2C rfl,
      other 0x3A rfl, other 0x22 rfl, other 0x6E rfl, other 0x74 rfl, other 0x66 rfl,
      other 0x2D rfl, digit, Bool.false_eq_true, if_false, if_true]

/-- A printed number spells one token, if a part ends behind it. -/
theorem spells_number {n : Int} (low : -Nat.pow 2 63 ≤ n) (high : n < Nat.pow 2 64)
    {rest : List UInt8} (stops : Stops rest) :
    Spells (utf8 (toString n).toList) [.number (.ok (.whole n))] rest := by
  cases n with
  | ofNat n =>
    have small : n < Nat.pow 2 64 := Int.ofNat_lt.1 high
    have text : utf8 (toString (Int.ofNat n)).toList = digits n :=
      congrArg utf8 Nat.toList_repr
    have taken : takeNumber false (digits n ++ rest) = (.number (.ok (.whole n)), rest) := by
      rw [takeNumber, takeNumeral_digits false n stops]
      exact congrArg (fun value => (Token.number value, rest)) (value_digits n small)
    rw [text]
    match found : digits n with
    | [] => exact absurd found (digits_ne_nil n)
    | b :: ds =>
      rw [found] at taken
      have digit := isDigit_digits n b (found ▸ List.mem_cons_self)
      obtain ⟨space, first⟩ := take_digit digit (ds ++ rest)
      exact spells_of_take space (first.trans taken)
  | negSucc n =>
    have small : n + 1 ≤ Nat.pow 2 63 := by omega
    have text : utf8 (toString (Int.negSucc n)).toList = 0x2D :: digits (n + 1) := by
      have chars : (toString (Int.negSucc n)).toList = '-' :: Nat.toDigits 10 (n + 1) := by
        rw [← Nat.toList_repr]
        exact String.toList_append
      rw [chars]
      rfl
    rw [text]
    refine spells_of_take rfl ?_
    have taken : takeNumber true (digits (n + 1) ++ rest) =
        (.number (.ok (.whole (Int.negSucc n))), rest) := by
      rw [takeNumber, takeNumeral_digits true _ stops]
      exact congrArg (fun value => (Token.number value, rest))
        (value_negative (Nat.succ_pos n) small)
    exact taken

/-! ## All tokens of a value -/

/-- Behind the items of a list a number ends. -/
theorem stops_items (vs : List Value) (rest : List UInt8) :
    Stops (utf8 (printItems vs) ++ rest) := by
  cases vs with
  | nil => exact stops_closeArray rest
  | cons v vs => exact stops_comma _

/-- Behind the members of an object a number ends. -/
theorem stops_members (members : List (String × Value)) (rest : List UInt8) :
    Stops (utf8 (printMembers members) ++ rest) := by
  cases members with
  | nil => exact stops_closeObject rest
  | cons m members => exact stops_comma _

/-- A bracket, a comma or a colon. -/
theorem spells_mark {b : UInt8} (t : Token) (space : isSpace b = false)
    (taken : ∀ s, take b s = (t, s)) (rest : List UInt8) : Spells [b] [t] rest :=
  spells_of_take space (taken rest)

/-- A key with its colon, and what follows the colon. -/
theorem spells_key (k : String) {s rest : List UInt8} {ts : List Token} (value : Spells s ts rest) :
    Spells (utf8 (printText k) ++ (0x3A :: s)) (.text (.ok k) :: .colon :: ts) rest :=
  (spells_text k _).append ((spells_mark .colon rfl (fun _ => rfl) _).append value)

mutual

/-- A printed value spells its tokens. -/
theorem spells_value (v : Value) (plain : v.Plain) {rest : List UInt8} (stops : Stops rest) :
    Spells v.bytes v.tokens rest := by
  match v, plain with
  | .null, _ => exact spells_of_take rfl rfl
  | .bool true, _ => exact spells_of_take rfl rfl
  | .bool false, _ => exact spells_of_take rfl rfl
  | .number (.whole n), plain => exact spells_number plain.1 plain.2 stops
  | .text s, _ => exact spells_text s rest
  | .array [], _ =>
    exact (spells_mark .openArray rfl (fun _ => rfl) _).append
      (spells_mark .closeArray rfl (fun _ => rfl) rest)
  | .array (v :: vs), plain =>
    have head := spells_value v plain.1 (stops_items vs rest)
    have tail := spells_items vs plain.2 rest
    rw [Value.bytes, printChars, List.cons_append, Text.utf8_cons, Text.utf8_append, Value.tokens]
    exact (spells_mark .openArray rfl (fun _ => rfl) _).append (head.append tail)
  | .object [], _ =>
    exact (spells_mark .openObject rfl (fun _ => rfl) _).append
      (spells_mark .closeObject rfl (fun _ => rfl) rest)
  | .object ((k, v) :: members), plain =>
    have head := spells_value v plain.2.1 (stops_members members rest)
    have tail := spells_members members plain.2.2 rest
    rw [Value.bytes, printChars, List.cons_append, List.cons_append, List.append_assoc,
      Text.utf8_cons, Text.utf8_append, List.cons_append, Text.utf8_cons, Text.utf8_append,
      Value.tokens]
    exact (spells_mark .openObject rfl (fun _ => rfl) _).append (spells_key k (head.append tail))

theorem spells_items (vs : List Value) (plain : Value.PlainItems vs) (rest : List UInt8) :
    Spells (utf8 (printItems vs)) (Value.tokensItems vs) rest := by
  match vs, plain with
  | [], _ => exact spells_mark .closeArray rfl (fun _ => rfl) rest
  | v :: vs, plain =>
    have head := spells_value v plain.1 (stops_items vs rest)
    have tail := spells_items vs plain.2 rest
    rw [printItems, List.cons_append, Text.utf8_cons, Text.utf8_append, Value.tokensItems]
    exact (spells_mark .comma rfl (fun _ => rfl) _).append (head.append tail)

theorem spells_members (members : List (String × Value)) (plain : Value.PlainMembers members)
    (rest : List UInt8) : Spells (utf8 (printMembers members)) (Value.tokensMembers members) rest := by
  match members, plain with
  | [], _ => exact spells_mark .closeObject rfl (fun _ => rfl) rest
  | (k, v) :: members, plain =>
    have head := spells_value v plain.1 (stops_members members rest)
    have tail := spells_members members plain.2 rest
    rw [printMembers, List.cons_append, List.cons_append, List.append_assoc,
      Text.utf8_cons, Text.utf8_append, List.cons_append, Text.utf8_cons, Text.utf8_append,
      Value.tokensMembers]
    exact (spells_mark .comma rfl (fun _ => rfl) _).append (spells_key k (head.append tail))

end

/-- The bytes of a value are scanned into its tokens. -/
theorem ofBytes_bytes {v : Value} (plain : v.Plain) : ofBytes v.bytes = v.tokens := by
  have spells := spells_value v plain stops_nil
  obtain ⟨k, enough⟩ := Nat.exists_eq_add_of_le spells.short
  have none : scan k [] = [] := by cases k <;> rfl
  have scanned := spells.scanned k
  rwa [← enough, List.append_nil, none, List.append_nil] at scanned

end Token

end ResourceTree.Json
