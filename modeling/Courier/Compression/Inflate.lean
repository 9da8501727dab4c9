import Courier.Compression.CodeTree

/-!
# Inflating

The decoding of compressed data: blocks of plain bytes, or of symbols in prefix codes, where a
symbol is a byte or a length for which earlier output is repeated. Data may break off anywhere;
what could be decoded up to there counts.
-/

namespace Courier.Compression

/-- What is wrong with compressed data. -/
inductive Corruption where
  | header
  | method
  | windowSize
  | headerFlags
  | headerCheck
  | dictionary
  | blockType
  | storedLengths
  | symbolCounts
  | lengthCode
  | lengthRepeat
  | noEndOfBlock
  | literalCodeSet
  | distanceCodeSet
  | literalCode
  | distanceCode
  | distance
  | dataCheck
  | lengthCheck
  deriving DecidableEq, Repr

/-- The words for a corruption. -/
def Corruption.text : Corruption → String
  | .header => "incorrect header check"
  | .method => "unknown compression method"
  | .windowSize => "invalid window size"
  | .headerFlags => "unknown header flags set"
  | .headerCheck => "header crc mismatch"
  | .dictionary => ""
  | .blockType => "invalid block type"
  | .storedLengths => "invalid stored block lengths"
  | .symbolCounts => "too many length or distance symbols"
  | .lengthCode => "invalid code lengths set"
  | .lengthRepeat => "invalid bit length repeat"
  | .noEndOfBlock => "invalid code -- missing end-of-block"
  | .literalCodeSet => "invalid literal/lengths set"
  | .distanceCodeSet => "invalid distances set"
  | .literalCode => "invalid literal/length code"
  | .distanceCode => "invalid distance code"
  | .distance => "invalid distance too far back"
  | .dataCheck => "incorrect data check"
  | .lengthCheck => "incorrect length check"

/-- The words for a failure to decompress. -/
def Corruption.message (c : Corruption) : String :=
  match c with
  | .dictionary => "Error 2 while decompressing data"
  | _ => "Error -3 while decompressing data: " ++ c.text

/-- Why decoding stops before the end. -/
inductive Stop where
  | brokenOff
  | corrupt (c : Corruption)
  deriving DecidableEq, Repr

/-- The bits that are left and the output so far. -/
structure Progress where
  bits : List Bool
  output : Array UInt8

/-- Decoding, which keeps its progress where it stops. -/
abbrev Inflating := ExceptT Stop (StateM Progress)

/-- The bits of bytes, each from its least significant one. -/
def bitsOf (bytes : List UInt8) : List Bool :=
  bytes.flatMap fun b => (List.range 8).map fun i => b.toNat.testBit i

/-- The number that bits write, the least significant first. -/
def ofBits (bits : List Bool) : Nat :=
  bits.foldr (fun b n => 2 * n + b.toNat) 0

namespace Inflating

/-- Stops at data that is wrong. -/
def corrupt {α : Type} (c : Corruption) : Inflating α := throw (.corrupt c)

/-- Reads a number of some bits. -/
def take (n : Nat) : Inflating Nat := do
  let p ← get
  let bits := p.bits.take n
  if bits.length < n then throw .brokenOff
  set { p with bits := p.bits.drop n }
  return ofBits bits

/-- Goes on to the beginning of a byte. -/
def align : Inflating Unit :=
  modify fun p => { p with bits := p.bits.drop (p.bits.length % 8) }

/-- Writes a byte. -/
def put (b : UInt8) : Inflating Unit :=
  modify fun p => { p with output := p.output.push b }

/-- Reads a symbol; none where the bits are no word. -/
def symbol : CodeTree → Inflating (Option Nat)
  | .absent => return none
  | .leaf n => return some n
  | .node zero one => do
    if (← take 1) = 0 then symbol zero else symbol one

/-- Copies plain bytes. -/
def copyStored : Nat → Inflating Unit
  | 0 => return ()
  | n + 1 => do
    put (UInt8.ofNat (← take 8))
    copyStored n

/-- Repeats output from a distance. -/
def repeatFrom (distance : Nat) : Nat → Inflating Unit
  | 0 => return ()
  | n + 1 => do
    let p ← get
    put (p.output.getD (p.output.size - distance) 0)
    repeatFrom distance n

/-- The least length of a symbol above 256, and the number of bits that are added to it. -/
def lengthBase : List (Nat × Nat) :=
  [(3, 0), (4, 0), (5, 0), (6, 0), (7, 0), (8, 0), (9, 0), (10, 0), (11, 1), (13, 1), (15, 1),
    (17, 1), (19, 2), (23, 2), (27, 2), (31, 2), (35, 3), (43, 3), (51, 3), (59, 3), (67, 4),
    (83, 4), (99, 4), (115, 4), (131, 5), (163, 5), (195, 5), (227, 5), (258, 0)]

/-- The least distance of a symbol, and the number of bits that are added to it. -/
def distanceBase : List (Nat × Nat) :=
  [(1, 0), (2, 0), (3, 0), (4, 0), (5, 1), (7, 1), (9, 2), (13, 2), (17, 3), (25, 3), (33, 4),
    (49, 4), (65, 5), (97, 5), (129, 6), (193, 6), (257, 7), (385, 7), (513, 8), (769, 8),
    (1025, 9), (1537, 9), (2049, 10), (3073, 10), (4097, 11), (6145, 11), (8193, 12), (12289, 12),
    (16385, 13), (24577, 13)]

/-- Repeats earlier output for a symbol of a length. -/
def repetition (distances : CodeTree) (base : Nat × Nat) : Inflating Unit := do
  let length := base.1 + (← take base.2)
  match (← symbol distances).bind fun s => distanceBase[s]? with
  | none => corrupt .distanceCode
  | some d =>
    let distance := d.1 + (← take d.2)
    if (← get).output.size < distance then corrupt .distance
    repeatFrom distance length

/-- Reads symbols up to the end of a block; `fuel` bounds their number. -/
def symbols (literals distances : CodeTree) : Nat → Inflating Unit
  | 0 => throw .brokenOff
  | fuel + 1 => do
    match ← symbol literals with
    | none => corrupt .literalCode
    | some s =>
      if s < 256 then
        put (UInt8.ofNat s)
        symbols literals distances fuel
      else if s = 256 then return ()
      else
        match lengthBase[s - 257]? with
        | none => corrupt .literalCode
        | some base =>
          repetition distances base
          symbols literals distances fuel

/-- The lengths of the words for literals in the code that is known beforehand. -/
def fixedLiteralLengths : List Nat :=
  List.replicate 144 8 ++ List.replicate 112 9 ++ List.replicate 24 7 ++ List.replicate 8 8

/-- The lengths of the words for distances in the code that is known beforehand. -/
def fixedDistanceLengths : List Nat := List.replicate 32 5

/-- The order in which the lengths of the words for lengths are given. -/
def lengthOrder : List Nat :=
  [16, 17, 18, 0, 8, 7, 9, 6, 10, 5, 11, 4, 12, 3, 13, 2, 14, 1, 15]

/-- Reads numbers of three bits each. -/
def takeTriples : Nat → Inflating (List Nat)
  | 0 => return []
  | n + 1 => do
    let first ← take 3
    return first :: (← takeTriples n)

/-- Adds a repeated length. -/
def addRepeated (total : Nat) (lengths : List Nat) (length times : Nat) : Inflating (List Nat) :=
  if total < lengths.length + times then corrupt .lengthRepeat
  else return List.replicate times length ++ lengths

/-- Adds the lengths that a symbol stands for: itself, or a repetition. -/
def addLengths (total : Nat) (lengths : List Nat) (symbol : Nat) : Inflating (List Nat) :=
  match symbol with
  | 16 => do
    let times := 3 + (← take 2)
    match lengths with
    | [] => corrupt .lengthRepeat
    | last :: _ => addRepeated total lengths last times
  | 17 => do addRepeated total lengths 0 (3 + (← take 3))
  | 18 => do addRepeated total lengths 0 (11 + (← take 7))
  | n => return n :: lengths

/-- Reads lengths of words, the last one first in the result; `fuel` bounds the symbols read. -/
def takeLengths (code : CodeTree) (total : Nat) : Nat → List Nat → Inflating (List Nat)
  | 0, lengths => return lengths
  | fuel + 1, lengths =>
    if total ≤ lengths.length then return lengths
    else do
      match ← symbol code with
      | none => corrupt .lengthCode
      | some s => takeLengths code total fuel (← addLengths total lengths s)

/-- The code for lengths; one without words reads every bit as a zero. -/
def lengthCode (lengths : List Nat) : Inflating CodeTree :=
  if lengths.all (· == 0) then return .node (.leaf 0) (.leaf 0)
  else if CodeTree.fits lengths && CodeTree.isComplete lengths then
    return CodeTree.ofLengths lengths
  else corrupt .lengthCode

/-- A code for literals or distances: complete, or of at most one word of one bit. -/
def symbolCode (c : Corruption) (lengths : List Nat) : Inflating CodeTree :=
  if CodeTree.fits lengths && (CodeTree.isComplete lengths || lengths.all (· ≤ 1)) then
    return CodeTree.ofLengths lengths
  else corrupt c

/-- Reads the codes of a block that brings its own. -/
def ownCodes : Inflating (CodeTree × CodeTree) := do
  let literalCount := 257 + (← take 5)
  let distanceCount := 1 + (← take 5)
  let tripleCount := 4 + (← take 4)
  if 286 < literalCount || 30 < distanceCount then corrupt .symbolCounts
  let triples ← takeTriples tripleCount
  let given := lengthOrder.zip triples
  let code ← lengthCode ((List.range 19).map fun i => (given.lookup i).getD 0)
  let total := literalCount + distanceCount
  let lengths := (← takeLengths code total total []).reverse
  if lengths.getD 256 0 = 0 then corrupt .noEndOfBlock
  let literals ← symbolCode .literalCodeSet (lengths.take literalCount)
  let distances ← symbolCode .distanceCodeSet (lengths.drop literalCount)
  return (literals, distances)

/-- Copies a block of plain bytes. -/
def storedBlock : Inflating Unit := do
  align
  let length ← take 16
  let inverse ← take 16
  if length + inverse ≠ 0xFFFF then corrupt .storedLengths
  copyStored length

/-- The codes that a block may use without giving them. -/
def fixedCodes : CodeTree × CodeTree :=
  (CodeTree.ofLengths fixedLiteralLengths, CodeTree.ofLengths fixedDistanceLengths)

/-- Reads a block of symbols. -/
def codedBlock (codes : CodeTree × CodeTree) : Inflating Unit := do
  symbols codes.1 codes.2 ((← get).bits.length + 1)

/-- Reads blocks up to the last; `fuel` bounds their number. -/
def blocks : Nat → Inflating Unit
  | 0 => throw .brokenOff
  | fuel + 1 => do
    let head ← take 3
    match head / 2 with
    | 0 => storedBlock
    | 1 => codedBlock fixedCodes
    | 2 => do codedBlock (← ownCodes)
    | _ => corrupt .blockType
    if head % 2 = 1 then return () else blocks fuel

/-- Reads blocks up to the last one and goes on to the beginning of a byte. -/
def body : Inflating Unit := do
  blocks ((← get).bits.length + 1)
  align

end Inflating

end Courier.Compression
