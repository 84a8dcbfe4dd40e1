/-!
# Deflate streams

Compressed data as a sequence of blocks, each stored as it is or written in Huffman codes for
literal bytes and for copies of earlier output. The reader works on the bits of the stream, the
lowest bit of every byte first; a code is a binary tree that is walked bit by bit.
-/

namespace ResourceTree.Archive.Deflate
set_option autoImplicit false

/-- Why a stream is refused: it ends too soon, or it breaks a rule. -/
inductive Fault where
  | incomplete
  | corrupt
  deriving DecidableEq, Repr

abbrev Bits := List Bool

/-- The bits of a byte, lowest first. -/
def byteBits (b : UInt8) : Bits :=
  (List.range 8).map fun i => b.toNat >>> i % 2 == 1

/-- The bits of some bytes. -/
def bitsOf (bytes : List UInt8) : Bits := bytes.flatMap byteBits

/-- A number of `count` bits, lowest first, and the bits behind it. -/
def number : Nat → Bits → Except Fault (Nat × Bits)
  | 0, bits => .ok (0, bits)
  | _ + 1, [] => .error .incomplete
  | count + 1, b :: bits => do
    let (n, rest) ← number count bits
    return (2 * n + (if b then 1 else 0), rest)

/-- A prefix code: symbols at the leaves, the next bit chooses the side. -/
inductive Code where
  | missing
  | leaf (symbol : Nat)
  | fork (zero one : Code)

namespace Code

/-- Adds a symbol at the end of a path. -/
def insert (symbol : Nat) : List Bool → Code → Code
  | [], _ => leaf symbol
  | b :: path, c =>
    let (zero, one) := match c with
      | fork zero one => (zero, one)
      | _ => (missing, missing)
    if b then fork zero (insert symbol path one) else fork (insert symbol path zero) one

/-- Reads one symbol. -/
def read : Code → Bits → Except Fault (Nat × Bits)
  | missing, _ => .error .corrupt
  | leaf symbol, bits => .ok (symbol, bits)
  | fork _ _, [] => .error .incomplete
  | fork zero one, b :: bits => if b then one.read bits else zero.read bits

/-- The `length` bits of a code word, highest first. -/
def path (word length : Nat) : List Bool :=
  (List.range length).map fun i => word >>> (length - 1 - i) % 2 == 1

/-- The number of symbols with a code word of some length. -/
def countOf (lengths : List Nat) (length : Nat) : Nat :=
  if length = 0 then 0 else lengths.count length

/-- The first code word of each length: words of one length are consecutive and follow those of
the shorter lengths. -/
def firstWord (lengths : List Nat) : Nat → Nat
  | 0 => 0
  | length + 1 => (firstWord lengths length + countOf lengths length) * 2

/-- The share of all sixteen-bit words that a choice of lengths takes. -/
def share (lengths : List Nat) : Nat :=
  lengths.foldl (fun n length => if length = 0 then n else n + Nat.pow 2 (16 - length)) 0

/-- Gives every symbol of a positive length the next word of that length. -/
def assign (code : Code) (next : List Nat) : List Nat → Nat → Code
  | [], _ => code
  | length :: rest, symbol =>
    if length = 0 then assign code next rest (symbol + 1)
    else
      let word := next[length]?.getD 0
      assign (code.insert symbol (path word length)) (next.set length (word + 1)) rest (symbol + 1)

/-- A code of no symbol, or of one symbol with a word of one bit, which leaves words unused. -/
def isSparse (lengths : List Nat) : Bool :=
  lengths.foldl (· + ·) 0 ≤ 1

/-- The canonical code of the given lengths. It must use up all words; only a sparse code may
leave some unused, where `maySparse` says so. Every code takes a bit at least. -/
def ofLengths (lengths : List Nat) (maySparse : Bool) : Except Fault Code :=
  if share lengths = Nat.pow 2 16 || (maySparse && isSparse lengths) then
    .ok (assign (fork missing missing) ((List.range 16).map (firstWord lengths)) lengths 0)
  else .error .corrupt

end Code

/-- The lengths of copies: the least one and the number of further bits, by symbol. -/
def copyLengths : List (Nat × Nat) :=
  [(3, 0), (4, 0), (5, 0), (6, 0), (7, 0), (8, 0), (9, 0), (10, 0), (11, 1), (13, 1), (15, 1),
    (17, 1), (19, 2), (23, 2), (27, 2), (31, 2), (35, 3), (43, 3), (51, 3), (59, 3), (67, 4),
    (83, 4), (99, 4), (115, 4), (131, 5), (163, 5), (195, 5), (227, 5), (258, 0)]

/-- The distances of copies: the least one and the number of further bits, by symbol. -/
def copyDistances : List (Nat × Nat) :=
  [(1, 0), (2, 0), (3, 0), (4, 0), (5, 1), (7, 1), (9, 2), (13, 2), (17, 3), (25, 3), (33, 4),
    (49, 4), (65, 5), (97, 5), (129, 6), (193, 6), (257, 7), (385, 7), (513, 8), (769, 8),
    (1025, 9), (1537, 9), (2049, 10), (3073, 10), (4097, 11), (6145, 11), (8193, 12), (12289, 12),
    (16385, 13), (24577, 13)]

/-- A number given by a table entry and its further bits. -/
def tabled (table : List (Nat × Nat)) (symbol : Nat) (bits : Bits) : Except Fault (Nat × Bits) :=
  match table[symbol]? with
  | none => .error .corrupt
  | some (least, count) => do
    let (n, rest) ← number count bits
    return (least + n, rest)

/-- The byte that stands `distance` before the end. The output is preceded by zeros, as many as a
distance can reach. -/
def byteBack (out : Array UInt8) (distance : Nat) : UInt8 :=
  if distance ≤ out.size then out[out.size - distance]?.getD 0 else 0

/-- Output with `length` bytes from `distance` back repeated; a copy may overlap the bytes it
makes. -/
def copy (out : Array UInt8) (distance : Nat) : Nat → Array UInt8
  | 0 => out
  | length + 1 => copy (out.push (byteBack out distance)) distance length

/-- The symbols of a block up to its end; every symbol takes a bit at least. -/
def symbols (literals distances : Code) : Nat → Array UInt8 → Bits →
    Except Fault (Array UInt8 × Bits)
  | 0, _, _ => .error .incomplete
  | steps + 1, out, bits => do
    let (symbol, bits) ← literals.read bits
    if symbol < 256 then symbols literals distances steps (out.push (UInt8.ofNat symbol)) bits
    else if symbol = 256 then return (out, bits)
    else
      let (length, bits) ← tabled copyLengths (symbol - 257) bits
      let (symbol, bits) ← distances.read bits
      let (distance, bits) ← tabled copyDistances symbol bits
      symbols literals distances steps (copy out distance length) bits

/-- The code lengths of literals where a block names none. -/
def fixedLengths : List Nat :=
  List.replicate 144 8 ++ List.replicate 112 9 ++ List.replicate 24 7 ++ List.replicate 8 8

/-- The order in which the lengths of the length code are written. -/
def lengthOrder : List Nat := [16, 17, 18, 0, 8, 7, 9, 6, 10, 5, 11, 4, 12, 3, 13, 2, 14, 1, 15]

/-- Numbers of three bits. -/
def threes : Nat → Bits → Except Fault (List Nat × Bits)
  | 0, bits => .ok ([], bits)
  | count + 1, bits => do
    let (n, bits) ← number 3 bits
    let (ns, bits) ← threes count bits
    return (n :: ns, bits)

/-- Code lengths in the length code, with runs of the last length or of zero. -/
def lengths (code : Code) (wanted : Nat) : Nat → List Nat → Bits → Except Fault (List Nat × Bits)
  | 0, _, _ => .error .incomplete
  | steps + 1, done, bits =>
    if wanted ≤ done.length then
      if done.length = wanted then .ok (done.reverse, bits) else .error .corrupt
    else do
      let (symbol, bits) ← code.read bits
      if symbol < 16 then lengths code wanted steps (symbol :: done) bits
      else
        let (least, count) :=
          if symbol = 16 then (3, 2) else if symbol = 17 then (3, 3) else (11, 7)
        if symbol = 16 && done.isEmpty then .error .corrupt
        else
          let (more, bits) ← number count bits
          let value := if symbol = 16 then done.head?.getD 0 else 0
          lengths code wanted steps (List.replicate (least + more) value ++ done) bits

/-- The codes that a block brings along. -/
def blockCodes (bits : Bits) : Except Fault (Code × Code × Bits) := do
  let (hlit, bits) ← number 5 bits
  let (hdist, bits) ← number 5 bits
  let (hclen, bits) ← number 4 bits
  let literalCount := hlit + 257
  let distanceCount := hdist + 1
  if 286 < literalCount || 30 < distanceCount then .error .corrupt
  else
    let (given, bits) ← threes (hclen + 4) bits
    let lengthLengths := (List.range 19).map fun symbol =>
      given[lengthOrder.idxOf symbol]?.getD 0
    let lengthCode ← Code.ofLengths lengthLengths false
    let (all, bits) ← lengths lengthCode (literalCount + distanceCount) (bits.length + 1) [] bits
    let distanceCode ← Code.ofLengths (all.drop literalCount) true
    let literalCode ← Code.ofLengths (all.take literalCount) true
    return (literalCode, distanceCode, bits)

/-- A stored block, from the next full byte on. `total` is the number of bits of the stream. -/
def stored (total : Nat) (out : Array UInt8) (bits : Bits) : Except Fault (Array UInt8 × Bits) := do
  let bits := bits.drop ((8 - (total - bits.length) % 8) % 8)
  let (length, bits) ← number 16 bits
  let (check, bits) ← number 16 bits
  if length + check != 0xFFFF then .error .corrupt
  else take length out bits
where
  take : Nat → Array UInt8 → Bits → Except Fault (Array UInt8 × Bits)
    | 0, out, bits => .ok (out, bits)
    | count + 1, out, bits => do
      let (b, bits) ← number 8 bits
      take count (out.push (UInt8.ofNat b)) bits

/-- The blocks up to the one that is marked as last; every block takes three bits at least. -/
def blocks (total : Nat) : Nat → Array UInt8 → Bits → Except Fault (Array UInt8 × Bits)
  | 0, _, _ => .error .incomplete
  | steps + 1, out, bits => do
    let (last, bits) ← number 1 bits
    let (type, bits) ← number 2 bits
    let (out, bits) ←
      if type = 0 then stored total out bits
      else if type = 1 then do
        let literals ← Code.ofLengths fixedLengths true
        let distances ← Code.ofLengths (List.replicate 32 5) true
        symbols literals distances (bits.length + 1) out bits
      else if type = 2 then do
        let (literals, distances, bits) ← blockCodes bits
        symbols literals distances (bits.length + 1) out bits
      else .error .corrupt
    if last = 1 then return (out, bits) else blocks total steps out bits

/-- The content of a stream, and the bytes behind it. -/
def inflate (bytes : List UInt8) : Except Fault (List UInt8 × List UInt8) := do
  let bits := bitsOf bytes
  let (out, rest) ← blocks bits.length (bits.length + 1) #[] bits
  return (out.toList, bytes.drop (bytes.length - rest.length / 8))

/-- A number as two bytes, the low one first. -/
def twoBytes (n : Nat) : List UInt8 := [UInt8.ofNat n, UInt8.ofNat (n / 256)]

/-- Stored blocks of at most 65535 bytes. -/
def storedBlocks : Nat → List UInt8 → List UInt8
  | 0, _ => []
  | steps + 1, bytes =>
    let chunk := bytes.take 65535
    let rest := bytes.drop 65535
    (if rest.isEmpty then 1 else 0) :: twoBytes chunk.length ++ twoBytes (65535 - chunk.length)
      ++ chunk ++ (if rest.isEmpty then [] else storedBlocks steps rest)

/-- A stream that holds some bytes as they are. -/
def pack (bytes : List UInt8) : List UInt8 := storedBlocks (bytes.length + 1) bytes

end ResourceTree.Archive.Deflate
