import Courier.Text.Charset.SingleByte
import Courier.Text.Surrogate

/-!
# Code units

Encodings whose units are two or four bytes, in either order. A unit that is no character, or a
text that breaks off within one, gives the replacement character.
-/

namespace Courier.Text.Charset

/-- The order of the bytes of a unit. -/
inductive ByteOrder where
  | little
  | big
  deriving DecidableEq, Repr

/-- The number that the bytes of a unit write. -/
def ByteOrder.value (o : ByteOrder) (bytes : List UInt8) : Nat :=
  match o with
  | .little => bytes.foldr (fun b n => 256 * n + b.toNat) 0
  | .big => bytes.foldl (fun n b => 256 * n + b.toNat) 0

/-- The characters of units of two bytes. -/
def decodePairs (o : ByteOrder) : List UInt8 → List Char
  | a :: b :: c :: d :: rest =>
    let first := o.value [a, b]
    let second := o.value [c, d]
    if isHighSurrogate first then
      if isLowSurrogate second then Char.ofNat (joinSurrogates first second) :: decodePairs o rest
      else replacement :: decodePairs o (c :: d :: rest)
    else if isSurrogate first then replacement :: decodePairs o (c :: d :: rest)
    else Char.ofNat first :: decodePairs o (c :: d :: rest)
  | [a, b, c] =>
    let first := o.value [a, b]
    if isHighSurrogate first then [replacement]
    else if isSurrogate first then replacement :: decodePairs o [c]
    else Char.ofNat first :: decodePairs o [c]
  | [a, b] =>
    let first := o.value [a, b]
    if isSurrogate first then [replacement] else [Char.ofNat first]
  | [_] => [replacement]
  | [] => []

/-- The characters of units of four bytes. -/
def decodeQuads (o : ByteOrder) : List UInt8 → List Char
  | a :: b :: c :: d :: rest =>
    let n := o.value [a, b, c, d]
    (if n < 0x110000 && !isSurrogate n then Char.ofNat n else replacement) :: decodeQuads o rest
  | [] => []
  | _ => [replacement]

/-- The byte order that a mark in front of a text gives, and the text after the mark. Without a mark
the order is little. -/
def takeMark (size : Nat) (bytes : List UInt8) : ByteOrder × List UInt8 :=
  let mark := bytes.take size
  if mark.length = size ∧ ByteOrder.little.value mark = 0xFEFF then (.little, bytes.drop size)
  else if mark.length = size ∧ ByteOrder.big.value mark = 0xFEFF then (.big, bytes.drop size)
  else (.little, bytes)

end Courier.Text.Charset
