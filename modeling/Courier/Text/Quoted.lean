import Courier.Text.CodePoint
import Courier.Text.Printable
import Courier.Text.Utf8

/-!
# Quoted text

A text as a literal: single quotes, or double quotes where the text has a single quote and no
double one; a backslash before the quote and before a backslash; short escapes for tab, newline
and carriage return; and the code point in hexadecimal for what is not printable.
-/

namespace Courier.Text

/-- `n` in lowercase hexadecimal, padded with zeros to `width`. -/
def hexPadded (width n : Nat) : List Char :=
  let digits := Nat.toDigits 16 n
  List.replicate (width - digits.length) '0' ++ digits

/-- One code point inside the quotes `q`. -/
def quotedCode (q : Char) (n : Nat) : List Char :=
  if n = q.toNat ∨ n = 0x5C then ['\\', Char.ofNat n]
  else if n = 0x09 then ['\\', 't']
  else if n = 0x0A then ['\\', 'n']
  else if n = 0x0D then ['\\', 'r']
  else if n < 0x20 ∨ n = 0x7F then '\\' :: 'x' :: hexPadded 2 n
  else if n < 0x7F then [Char.ofNat n]
  else if isPrintableCode n then [Char.ofNat n]
  else if n < 0x100 then '\\' :: 'x' :: hexPadded 2 n
  else if n < 0x10000 then '\\' :: 'u' :: hexPadded 4 n
  else '\\' :: 'U' :: hexPadded 8 n

/-- The quote for a text with the code points `codes`. -/
def quoteFor (codes : List Nat) : Char :=
  if codes.contains 0x27 && !codes.contains 0x22 then '"' else '\''

/-- Code points, surrogates among them, as a literal. -/
def quotedCodes (codes : List Nat) : String :=
  let q := quoteFor codes
  String.ofList (q :: codes.flatMap (quotedCode q) ++ [q])

/-- A text as a literal. -/
def quoted (s : String) : String :=
  quotedCodes (s.toList.map Char.toNat)

/-- One byte inside the quotes `q` of a byte literal. -/
def quotedByte (q : Char) (b : UInt8) : List Char :=
  if b.toNat < 0x7F then quotedCode q b.toNat else '\\' :: 'x' :: (Utf8.hexByte b).toList

/-- Bytes as a literal. -/
def quotedBytes (bs : List UInt8) : String :=
  let q := quoteFor (bs.map UInt8.toNat)
  String.ofList ('b' :: q :: bs.flatMap (quotedByte q) ++ [q])

end Courier.Text

namespace Courier.CodeText

/-- A text as a literal. -/
def quoted (t : CodeText) : String := Text.quotedCodes t.codes

end Courier.CodeText
