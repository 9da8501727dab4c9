import Courier.Compression.Inflate

/-!
# Containers

The frames around deflated data: none at all, a short header with a checksum behind the data, or
the header of a file with a checksum and a length behind the data.
-/

namespace Courier.Compression

/-- A frame. -/
inductive Container where
  /-- No frame. -/
  | bare
  /-- Two bytes in front, a checksum behind. -/
  | short
  /-- The header of a file in front, a checksum and a length behind. -/
  | file
  deriving DecidableEq, Repr

/-- The sum of bytes and the sum of these sums, each modulo the greatest prime below `2 ^ 16`. -/
def sumCheck (bytes : List UInt8) : Nat :=
  let sums := bytes.foldl (fun (s : Nat × Nat) b =>
    let a := (s.1 + b.toNat) % 65521
    (a, (s.2 + a) % 65521)) (1, 0)
  sums.2 * 65536 + sums.1

/-- One bit of the division by the checksum's polynomial. -/
def remainderStep (r : UInt32) : UInt32 :=
  if r &&& 1 = 1 then (r >>> 1) ^^^ 0xEDB88320 else r >>> 1

/-- Adds a byte to a remainder. -/
def remainderByte (r : UInt32) (b : UInt8) : UInt32 :=
  (List.range 8).foldl (fun r _ => remainderStep r) (r ^^^ b.toUInt32)

/-- The remainder of bytes as a polynomial. -/
def remainderCheck (bytes : List UInt8) : Nat :=
  (bytes.foldl remainderByte 0xFFFFFFFF ^^^ 0xFFFFFFFF).toNat

namespace Inflating

/-- Reads a number whose most significant byte comes first. -/
def takeBigEndian : Nat → Inflating Nat
  | 0 => return 0
  | n + 1 => do
    let first ← take 8
    return first * Nat.pow 256 n + (← takeBigEndian n)

/-- Skips bytes. -/
def skip : Nat → Inflating Unit
  | 0 => return ()
  | n + 1 => do
    let _ ← take 8
    skip n

/-- Skips a text up to its zero; `fuel` bounds its length. -/
def skipText : Nat → Inflating Unit
  | 0 => throw .brokenOff
  | fuel + 1 => do
    if (← take 8) = 0 then return () else skipText fuel

/-- The short header. -/
def shortHeader : Inflating Unit := do
  let first ← take 8
  let second ← take 8
  if (first * 256 + second) % 31 ≠ 0 then corrupt .header
  if first % 16 ≠ 8 then corrupt .method
  if 7 < first / 16 then corrupt .windowSize
  if second.testBit 5 then
    skip 4
    corrupt .dictionary

/-- The header of a file; `whole` is the data from its beginning. -/
def fileHeader (whole : List UInt8) : Inflating Unit := do
  if (← take 16) ≠ 0x8B1F then corrupt .header
  let kind ← take 16
  if kind % 256 ≠ 8 then corrupt .method
  let flags := kind / 256
  if flags / 32 ≠ 0 then corrupt .headerFlags
  skip 6
  if flags.testBit 2 then skip (← take 16)
  if flags.testBit 3 then skipText (whole.length + 1)
  if flags.testBit 4 then skipText (whole.length + 1)
  if flags.testBit 1 then
    let used := whole.length - (← get).bits.length / 8
    let expected := remainderCheck (whole.take used) % 65536
    if (← take 16) ≠ expected then corrupt .headerCheck

/-- Data in a frame. -/
def framed (c : Container) (whole : List UInt8) : Inflating Unit :=
  match c with
  | .bare => body
  | .short => do
    shortHeader
    body
    let check ← takeBigEndian 4
    if check ≠ sumCheck (← get).output.toList then corrupt .dataCheck
  | .file => do
    fileHeader whole
    body
    let check ← take 32
    if check ≠ remainderCheck (← get).output.toList then corrupt .dataCheck
    let length ← take 32
    if length ≠ (← get).output.size % Nat.pow 2 32 then corrupt .lengthCheck

end Inflating

/-- Decompresses data as far as it goes. What stands behind the end is left aside. -/
def decompress (c : Container) (bytes : List UInt8) : Except Corruption (List UInt8) :=
  match (Inflating.framed c bytes).run.run ⟨bitsOf bytes, #[]⟩ with
  | (.error (.corrupt fault), _) => .error fault
  | (_, p) => .ok p.output.toList

end Courier.Compression
