import Courier.Text.CodeSet
import Courier.Text.Utf8

/-!
# Percent encoding

Bytes written as a percent sign and two hexadecimal digits. Encoding leaves alone what is safe in a
given place and also what is already an escape; decoding reads escapes as UTF-8, with U+FFFD for
bytes that are not.
-/

namespace Courier.Text

/-- Letters, digits and the four marks that never need an escape. -/
def isUnreserved (c : Char) : Bool :=
  ('a' ≤ c && c ≤ 'z') || ('A' ≤ c && c ≤ 'Z') || ('0' ≤ c && c ≤ '9') ||
    c == '-' || c == '.' || c == '_' || c == '~'

/-- An uppercase hexadecimal digit. -/
def upperHexDigit (n : Nat) : Char :=
  if n < 10 then Char.ofNat (48 + n) else Char.ofNat (55 + n)

/-- The escape of a byte. -/
def percentByte (b : UInt8) : List Char :=
  ['%', upperHexDigit (b.toNat / 16), upperHexDigit (b.toNat % 16)]

/-- The escapes of a character. -/
def percentChar (c : Char) : List Char :=
  (Utf8.encodeCode c.toNat).flatMap percentByte

/-- A character, escaped unless it is safe. -/
def percentUnless (safe : Char → Bool) (c : Char) : List Char :=
  if isUnreserved c || safe c then [c] else percentChar c

/-- Escapes what is not safe and keeps escapes that are there. -/
def percentQuote (safe : Char → Bool) : List Char → List Char
  | '%' :: a :: b :: r =>
    if (hexDigit? a).isSome && (hexDigit? b).isSome then '%' :: a :: b :: percentQuote safe r
    else percentUnless safe '%' ++ percentQuote safe (a :: b :: r)
  | c :: r => percentUnless safe c ++ percentQuote safe r
  | [] => []

/-- The bytes that a text with escapes stands for. -/
def percentBytes : List Char → List UInt8
  | '%' :: a :: b :: r =>
    match hexDigit? a, hexDigit? b with
    | some x, some y => UInt8.ofNat (16 * x + y) :: percentBytes r
    | _, _ => 0x25 :: percentBytes (a :: b :: r)
  | c :: r => Utf8.encodeCode c.toNat ++ percentBytes r
  | [] => []

/-- The text with its escapes decoded. -/
def percentDecode (s : String) : String :=
  Utf8.decodeLossy (percentBytes s.toList)

end Courier.Text
