import Courier.Text.Charset.SingleByte
import Courier.Text.CodeSet

/-!
# Escapes

Bytes that are the characters of their numbers, but for escapes behind a backslash. The full form
has escapes of one letter, escapes by an octal number and escapes by a hexadecimal one; the raw form
has only the last, for numbers of four and eight digits. An escape that breaks off, or whose number
is no code point, gives the replacement character, and so does a character that is called by name.
-/

namespace Courier.Text.Charset.Escapes

/-- The code point of a one-letter escape. -/
def letter? (c : Char) : Option Nat :=
  match c with
  | '\\' => some 0x5C
  | '\'' => some 0x27
  | '"' => some 0x22
  | 'b' => some 0x08
  | 'f' => some 0x0C
  | 't' => some 0x09
  | 'n' => some 0x0A
  | 'r' => some 0x0D
  | 'v' => some 0x0B
  | 'a' => some 0x07
  | _ => none

/-- How many digits an escape has. -/
def size? (raw : Bool) (c : Char) : Option Nat :=
  match c with
  | 'x' => if raw then none else some 2
  | 'u' => some 4
  | 'U' => some 8
  | _ => none

/-- Whether a character is an octal digit. -/
def isOctal (c : Char) : Bool := '0' ≤ c && c ≤ '7'

/-- The number that octal digits write. -/
def octalValue (cs : List Char) : Nat :=
  cs.foldl (fun n c => 8 * n + (c.toNat - 48)) 0

/-- The code point of what is wrong. -/
def wrong : Nat := replacement.toNat

/-- An escape by number, from its first digit on: its code point, and how far it reaches. -/
def numbered (size : Nat) (cs : List Char) : Nat × Nat :=
  let digits := (cs.take size).takeWhile fun c => (hexDigit? c).isSome
  let n := hexValue digits
  (if digits.length = size ∧ n ≤ 0x10FFFF then n else wrong, digits.length)

/-- How far the name of a character reaches, from the brace in front of it on. -/
def nameLength (cs : List Char) : Nat :=
  match cs with
  | '\x7b' :: rest =>
    let name := rest.takeWhile (· != '\x7d')
    if name.length = rest.length || name.isEmpty then name.length + 1 else name.length + 2
  | _ => 0

/-- An escape behind its backslash: its code points, and how far it reaches. -/
def escape (raw : Bool) (cs : List Char) : List Nat × Nat :=
  match cs with
  | [] => ([if raw then 0x5C else wrong], 0)
  | c :: rest =>
    match size? raw c with
    | some size =>
      let (n, length) := numbered size rest
      ([n], length + 1)
    | none =>
      if raw then ([0x5C, c.toNat], 1)
      else
        match letter? c with
        | some n => ([n], 1)
        | none =>
          if c = '\n' then ([], 1)
          else if isOctal c then
            let digits := (cs.take 3).takeWhile isOctal
            ([octalValue digits], digits.length)
          else if c = 'N' then ([wrong], nameLength rest + 1)
          else ([0x5C, c.toNat], 1)

/-- The code points of characters; `fuel` bounds their number. -/
def decodeFrom (raw : Bool) : Nat → List Char → List Nat
  | 0, _ => []
  | _, [] => []
  | fuel + 1, '\\' :: rest =>
    let (codes, length) := escape raw rest
    codes ++ decodeFrom raw fuel (rest.drop length)
  | fuel + 1, c :: rest => c.toNat :: decodeFrom raw fuel rest

/-- The code points of bytes. -/
def decode (raw : Bool) (bytes : List UInt8) : List Nat :=
  decodeFrom raw bytes.length (bytes.map fun b => Char.ofNat b.toNat)

end Courier.Text.Charset.Escapes
