import Courier.Text.CodeSet

/-!
# Character sets of one byte

A set in which each byte is a character. Bytes below some number are the characters of that
number; the others are listed.
-/

namespace Courier.Text.Charset

/-- The replacement character, which stands for what is no character. -/
def replacement : Char := Char.ofNat 0xFFFD

/-- A set: its names, the first byte that is listed, and the listed characters. A byte after the
list is no character. -/
structure SingleByte where
  names : String
  start : Nat
  listed : String
  deriving DecidableEq, Repr, Inhabited

/-- The characters of bytes. -/
def SingleByte.decode (s : SingleByte) (bytes : List UInt8) : List Char :=
  let listed := s.listed.toList.toArray
  bytes.map fun b =>
    if b.toNat < s.start then Char.ofNat b.toNat
    else listed.getD (b.toNat - s.start) replacement

end Courier.Text.Charset
