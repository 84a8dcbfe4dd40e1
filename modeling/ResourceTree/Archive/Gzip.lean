import ResourceTree.Archive.Deflate

/-!
# Gzip members

A deflate stream between a header, which may carry a name and a comment, and a trailer with the
checksum and the length of the content. What follows the first member is passed over.
-/

namespace ResourceTree.Archive.Gzip
set_option autoImplicit false

/-- Why a member is refused. -/
inductive Fault where
  | header
  | fieldTooLong
  | checksum
  | ended
  | stream (f : Deflate.Fault)
  deriving DecidableEq, Repr

def Fault.message : Fault → String
  | .header => "invalid gzip header"
  | .fieldTooLong => "gzip header field too long"
  | .checksum => "corrupt gzip stream does not have a matching checksum"
  | .ended => "unexpected end of file"
  | .stream .incomplete => "incomplete deflate stream"
  | .stream .corrupt => "corrupt deflate stream"

/-- One bit of the checksum's division. -/
def crcBit (crc : UInt32) : UInt32 :=
  if crc &&& 1 == 1 then (crc >>> 1) ^^^ 0xEDB88320 else crc >>> 1

/-- One byte of the checksum. -/
def crcByte (crc : UInt32) (b : UInt8) : UInt32 :=
  (crcBit ∘ crcBit ∘ crcBit ∘ crcBit ∘ crcBit ∘ crcBit ∘ crcBit ∘ crcBit) (crc ^^^ b.toUInt32)

/-- The cyclic redundancy check of some bytes. -/
def crc32 (bytes : List UInt8) : Nat :=
  (bytes.foldl crcByte 0xFFFFFFFF ^^^ 0xFFFFFFFF).toNat

/-- The first `count` bytes and the rest. -/
def take (count : Nat) (bytes : List UInt8) : Except Fault (List UInt8 × List UInt8) :=
  if bytes.length < count then .error .ended else .ok (bytes.take count, bytes.drop count)

/-- The number that bytes spell, the low one first. -/
def littleEndian (bytes : List UInt8) : Nat :=
  bytes.foldr (fun b n => n * 256 + b.toNat) 0

/-- The bytes behind a text that a zero byte ends. -/
def skipText (bytes : List UInt8) : Except Fault (List UInt8) :=
  let text := bytes.takeWhile (· != 0)
  if 65535 < text.length then .error .fieldTooLong
  else match bytes.dropWhile (· != 0) with
    | [] => .error .ended
    | _ :: rest => .ok rest

/-- The bytes behind the header. -/
def skipHeader (bytes : List UInt8) : Except Fault (List UInt8) := do
  let (fixed, rest) ← take 10 bytes
  let flags := (fixed[3]?.getD 0).toNat
  if fixed.take 3 != [0x1F, 0x8B, 0x08] || 0x20 ≤ flags then .error .header
  else
    let rest ← if flags / 4 % 2 = 1 then do
        let (size, rest) ← take 2 rest
        let (_, rest) ← take (littleEndian size) rest
        pure rest
      else pure rest
    let rest ← if flags / 8 % 2 = 1 then skipText rest else pure rest
    let rest ← if flags / 16 % 2 = 1 then skipText rest else pure rest
    if flags / 2 % 2 = 1 then do
      let seen := bytes.take (bytes.length - rest.length)
      let (check, rest) ← take 2 rest
      if littleEndian check = crc32 seen % 65536 then pure rest else .error .checksum
    else pure rest

/-- The content of the first member. -/
def unpack (bytes : List UInt8) : Except Fault (List UInt8) := do
  let body ← skipHeader bytes
  let (content, rest) ← (Deflate.inflate body).mapError .stream
  let (trailer, _) ← take 8 rest
  if littleEndian (trailer.take 4) = crc32 content
      && littleEndian (trailer.drop 4) = content.length % Nat.pow 2 32 then .ok content
  else .error .checksum

/-- A number as four bytes, the low one first. -/
def fourBytes (n : Nat) : List UInt8 :=
  Deflate.twoBytes n ++ Deflate.twoBytes (n / 65536)

/-- A member with the given content. -/
def pack (content : List UInt8) : List UInt8 :=
  [0x1F, 0x8B, 0x08, 0, 0, 0, 0, 0, 0, 0xFF] ++ Deflate.pack content
    ++ fourBytes (crc32 content) ++ fourBytes content.length

end ResourceTree.Archive.Gzip
