import Courier.Number.Double
import Courier.Text.Blank
import Courier.Text.Digit

/-!
# Reading numerals

Two grammars. The exact one, for ASCII texts of formats, takes digits, a fraction and an exponent
apart. The lenient one, for texts typed by people, trims white space, takes the decimal digits of
every script and allows single underscores between digits.
-/

namespace Courier

/-- The greatest number of digits of an integer that is converted from or to text. -/
def maxDigits : Nat := 4300

namespace Numeral

/-- Whether `c` is one of 0 to 9. -/
def isDigit (c : Char) : Bool := '0' ≤ c && c ≤ '9'

/-- The number written by decimal digits. -/
def ofDigits (cs : List Char) : Nat :=
  cs.foldl (fun n c => 10 * n + (c.toNat - 48)) 0

/-- A decimal numeral: whole part, fraction and exponent, the last two perhaps empty. -/
structure Decimal where
  negative : Bool
  whole : List Char
  fraction : List Char
  exponent : Int
  deriving DecidableEq, Repr

/-- The digits of an exponent are read exactly up to this many; more are far out of range. -/
def exponentLimit : Nat := 12

/-- The number of an exponent's digits, cut at a size that no double reaches. -/
def exponentValue (digits : List Char) : Int :=
  let kept := digits.dropWhile (· == '0')
  if exponentLimit < kept.length then Nat.pow 10 exponentLimit else ofDigits kept

/-- The nearest double. -/
def Decimal.toDouble (d : Decimal) : Double :=
  let digits := (d.whole ++ d.fraction).dropWhile (· == '0')
  .ofDecimal d.negative (ofDigits digits) digits.length (d.exponent - d.fraction.length)

/-- Reads a sign, `-` or (if allowed) `+`. -/
def takeSign (plus : Bool) : List Char → Bool × List Char
  | '-' :: r => (true, r)
  | '+' :: r => if plus then (false, r) else (false, '+' :: r)
  | cs => (false, cs)

/-- Reads `e` or `E`, a sign and digits; gives nothing where there are no digits. -/
def takeExponent : List Char → Option (Int × List Char)
  | c :: r =>
    if c = 'e' ∨ c = 'E' then
      let (negative, r) := takeSign true r
      let digits := r.takeWhile isDigit
      if digits.isEmpty then none
      else
        let e := exponentValue digits
        some (if negative then -e else e, r.dropWhile isDigit)
    else none
  | [] => none

/-- Replaces decimal digits of every script by those of ASCII, and white space by a space. -/
def toAscii (cs : List Char) : List Char :=
  cs.map fun c =>
    if c.toNat < 0x80 then c
    else match Text.decimalValue? c with
      | some d => Char.ofNat (48 + d)
      | none => if Text.isBlankChar c then ' ' else c

/-- Drops underscores that stand between two digits; none where one stands elsewhere. -/
def dropUnderscores (before : Bool) : List Char → Option (List Char)
  | [] => some []
  | '_' :: r =>
    match r with
    | c :: _ => if before && isDigit c then dropUnderscores false r else none
    | [] => none
  | c :: r => (dropUnderscores (isDigit c) r).map (c :: ·)

/-- Digits with a fraction and an exponent, at least one digit before or after the point. -/
def decimal? (negative : Bool) (cs : List Char) : Option Decimal :=
  let whole := cs.takeWhile isDigit
  let r := cs.dropWhile isDigit
  let (fraction, r) := match r with
    | '.' :: t => (t.takeWhile isDigit, t.dropWhile isDigit)
    | _ => ([], r)
  if whole.isEmpty && fraction.isEmpty then none
  else
    match r with
    | [] => some ⟨negative, whole, fraction, 0⟩
    | _ =>
      match takeExponent r with
      | some (e, []) => some ⟨negative, whole, fraction, e⟩
      | _ => none

/-- A decimal, or a word for infinity or for no number, after a sign. -/
def signedDouble? (cs : List Char) : Option Double :=
  let (negative, body) := takeSign true cs
  let word := body.map fun c => if 'A' ≤ c ∧ c ≤ 'Z' then Char.ofNat (c.toNat + 32) else c
  if word = "inf".toList ∨ word = "infinity".toList then some (.infinite negative)
  else if word = "nan".toList then some .nan
  else (decimal? negative body).map Decimal.toDouble

/-- The double that a text of any script writes, with white space around it. -/
def double? (s : String) : Option Double := do
  let cs ← dropUnderscores false (Text.trimWhile Text.isAsciiBlank (toAscii s.toList))
  signedDouble? cs

/-- Whether the text has the form of an integer: a sign and digits, underscores between them. -/
def integerDigits? (s : String) : Option (Bool × List Char) := do
  let (negative, body) := takeSign true (Text.trimWhile Text.isAsciiBlank (toAscii s.toList))
  let digits ← dropUnderscores false body
  if digits.isEmpty || !digits.all isDigit then none else some (negative, digits)

/-- The integer of a sign and digits. -/
def ofSignedDigits (negative : Bool) (digits : List Char) : Int :=
  if negative then -(ofDigits digits : Int) else ofDigits digits

end Numeral

end Courier
