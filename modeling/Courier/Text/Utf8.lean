/-!
# UTF-8

Encoding of text and decoding of bytes. Decoding is one pass that yields a list of pieces: a
character, or a fault that covers the longest run of bytes that could have begun a character. A
strict reader refuses at the first fault, a lenient one puts U+FFFD in the place of each.
-/

namespace Courier.Text.Utf8

/-- The bytes of one code point. Surrogates get the three bytes that their value would have. -/
def encodeCode (n : Nat) : List UInt8 :=
  if n < 0x80 then [UInt8.ofNat n]
  else if n < 0x800 then [UInt8.ofNat (0xC0 + n / 64), UInt8.ofNat (0x80 + n % 64)]
  else if n < 0x10000 then
    [UInt8.ofNat (0xE0 + n / 4096), UInt8.ofNat (0x80 + n / 64 % 64), UInt8.ofNat (0x80 + n % 64)]
  else
    [UInt8.ofNat (0xF0 + n / 262144), UInt8.ofNat (0x80 + n / 4096 % 64),
      UInt8.ofNat (0x80 + n / 64 % 64), UInt8.ofNat (0x80 + n % 64)]

/-- The bytes of a list of characters. -/
def encodeChars (cs : List Char) : List UInt8 :=
  cs.flatMap fun c => encodeCode c.toNat

/-- The bytes of a text. -/
def encode (s : String) : List UInt8 :=
  encodeChars s.toList

/-- Why bytes are not UTF-8. -/
inductive Reason where
  /-- The byte begins no character. -/
  | start
  /-- The byte after the run does not continue it. -/
  | continuation
  /-- The bytes end inside a character. -/
  | truncated
  deriving DecidableEq, Repr

/-- The words for a reason. -/
def Reason.message : Reason → String
  | .start => "invalid start byte"
  | .continuation => "invalid continuation byte"
  | .truncated => "unexpected end of data"

/-- What a stretch of bytes decodes to. -/
inductive Piece where
  | char (c : Char)
  | fault (reason : Reason) (size : Nat)

/-- A character of which `size` bytes are read and `need` are missing; the next byte must lie in
`lo..hi`. -/
structure Pending where
  need : Nat
  lo : Nat
  hi : Nat
  code : Nat
  size : Nat

/-- The first byte of a character either is one, begins one, or is a fault. -/
def begin (b : Nat) : Piece ⊕ Pending :=
  if b < 0x80 then .inl (.char (Char.ofNat b))
  else if b < 0xC2 then .inl (.fault .start 1)
  else if b < 0xE0 then .inr ⟨1, 0x80, 0xBF, b - 0xC0, 1⟩
  else if b = 0xE0 then .inr ⟨2, 0xA0, 0xBF, 0, 1⟩
  else if b = 0xED then .inr ⟨2, 0x80, 0x9F, 0xD, 1⟩
  else if b < 0xF0 then .inr ⟨2, 0x80, 0xBF, b - 0xE0, 1⟩
  else if b = 0xF0 then .inr ⟨3, 0x90, 0xBF, 0, 1⟩
  else if b < 0xF4 then .inr ⟨3, 0x80, 0xBF, b - 0xF0, 1⟩
  else if b = 0xF4 then .inr ⟨3, 0x80, 0x8F, 4, 1⟩
  else .inl (.fault .start 1)

/-- The pieces of `bs`, given what is pending before them. -/
def piecesFrom : Option Pending → List UInt8 → List Piece
  | none, [] => []
  | some p, [] => [.fault .truncated p.size]
  | none, b :: r =>
    match begin b.toNat with
    | .inl piece => piece :: piecesFrom none r
    | .inr p => piecesFrom (some p) r
  | some p, b :: r =>
    if p.lo ≤ b.toNat ∧ b.toNat ≤ p.hi then
      let code := p.code * 64 + b.toNat % 64
      if p.need ≤ 1 then .char (Char.ofNat code) :: piecesFrom none r
      else piecesFrom (some ⟨p.need - 1, 0x80, 0xBF, code, p.size + 1⟩) r
    else
      .fault .continuation p.size ::
        match begin b.toNat with
        | .inl piece => piece :: piecesFrom none r
        | .inr q => piecesFrom (some q) r

/-- The pieces of `bs`. -/
def pieces (bs : List UInt8) : List Piece :=
  piecesFrom none bs

/-- All characters, if there is no fault. -/
def charsOf? : List Piece → Option (List Char)
  | [] => some []
  | .char c :: r => (charsOf? r).map (c :: ·)
  | .fault .. :: _ => none

/-- The text of bytes that are UTF-8. -/
def decode? (bs : List UInt8) : Option String :=
  (charsOf? (pieces bs)).map String.ofList

/-- The text of bytes, with U+FFFD for each fault. -/
def decodeLossy (bs : List UInt8) : String :=
  String.ofList ((pieces bs).map fun
    | .char c => c
    | .fault .. => '\ufffd')

/-- The code points of pieces of `bs`, the bytes of a fault kept as surrogates. -/
def keptCodes : List UInt8 → List Piece → List Nat
  | _, [] => []
  | bs, .char c :: r => c.toNat :: keptCodes (bs.drop (encodeCode c.toNat).length) r
  | bs, .fault _ size :: r =>
    (bs.take size).map (fun b => 0xDC00 + b.toNat) ++ keptCodes (bs.drop size) r

/-- The code points of bytes, each byte that is no text kept as a surrogate. -/
def decodeKept (bs : List UInt8) : List Nat :=
  keptCodes bs (pieces bs)

/-- A fault of a byte sequence: where it begins, how many bytes it covers, the first of them. -/
structure Fault where
  reason : Reason
  position : Nat
  size : Nat
  byte : UInt8
  deriving DecidableEq, Repr

/-- The first fault among the pieces of `bs`, which start at `position`. -/
def firstFault (bs : List UInt8) : Nat → List Piece → Option Fault
  | _, [] => none
  | pos, .char c :: r => firstFault bs (pos + (encodeCode c.toNat).length) r
  | pos, .fault reason size :: _ => some ⟨reason, pos, size, (bs.drop pos).headD 0⟩

/-- The first fault of `bs`. -/
def fault? (bs : List UInt8) : Option Fault :=
  firstFault bs 0 (pieces bs)

/-- Two lowercase hexadecimal digits. -/
def hexByte (b : UInt8) : String :=
  let digits := Nat.toDigits 16 b.toNat
  String.ofList (if digits.length < 2 then '0' :: digits else digits)

/-- The words for a fault, with its position and the reason. -/
def Fault.message (f : Fault) : String :=
  let place :=
    if f.size = 1 then s!"byte 0x{hexByte f.byte} in position {f.position}"
    else s!"bytes in position {f.position}-{f.position + f.size - 1}"
  "'utf-8' codec can't decode " ++ place ++ ": " ++ f.reason.message

end Courier.Text.Utf8
