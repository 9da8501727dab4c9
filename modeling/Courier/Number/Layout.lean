import Courier.Number.Shortest

/-!
# The text of a number

Digits and an exponent become text by a few decisions: which exponents are written positionally,
whether a whole number keeps a `.0`, and how the exponent is written. One value of `NumberLayout`
holds the decisions of each format.
-/

namespace Courier

/-- The decisions of a number format. -/
structure NumberLayout where
  /-- The least decimal exponent that is written positionally. -/
  leastPositional : Int
  /-- The least decimal exponent above those. -/
  endPositional : Int
  /-- Whether a whole number in positional form ends in `.0`. -/
  keepPoint : Bool
  /-- The least number of digits of an exponent. -/
  exponentWidth : Nat
  /-- The texts of infinity and of no number. -/
  infinity : String
  notANumber : String

namespace NumberLayout

/-- Literals: positional from `10^-4` to below `10^16`, two exponent digits. -/
def literal : NumberLayout := ⟨-4, 16, true, 2, "inf", "nan"⟩

/-- Numbers of a JSON text: positional from `10^-5` to below `10^16`; what is not finite is null. -/
def json : NumberLayout := ⟨-5, 16, true, 1, "null", "null"⟩

/-- General display: positional from `10^-4` to below `10^6`, and no idle zeros. -/
def general : NumberLayout := ⟨-4, 6, false, 2, "inf", "nan"⟩

/-- The exponent with its mark and sign. -/
def exponentText (f : NumberLayout) (e : Int) : List Char :=
  let digits := Nat.toDigits 10 e.natAbs
  'e' :: (if e < 0 then '-' else '+') ::
    (List.replicate (f.exponentWidth - digits.length) '0' ++ digits)

/-- A whole part and a fraction, with the point where it is needed. -/
def pointText (f : NumberLayout) (whole fraction : List Char) : List Char :=
  if fraction.isEmpty then (if f.keepPoint then whole ++ ['.', '0'] else whole)
  else whole ++ '.' :: fraction

/-- The text of positive digits. -/
def scientificText (f : NumberLayout) (s : Scientific) : List Char :=
  if f.leastPositional ≤ s.exponent ∧ s.exponent < f.endPositional then
    if s.exponent < 0 then
      f.pointText ['0'] (List.replicate ((-s.exponent).toNat - 1) '0' ++ s.digits)
    else
      let size := s.exponent.toNat + 1
      f.pointText (s.digits.take size ++ List.replicate (size - s.digits.length) '0')
        (s.digits.drop size)
  else
    match s.digits with
    | [] => []
    | [d] => d :: f.exponentText s.exponent
    | d :: ds => d :: '.' :: (ds ++ f.exponentText s.exponent)

/-- The text of a double, with `digits` giving the digits of a positive one. -/
def render (f : NumberLayout) (digits : Nat → Int → Scientific) : Double → String
  | .nan => f.notANumber
  | .infinite s => if s ∧ f.infinity = "inf" then "-inf" else f.infinity
  | .finite s m e =>
    let body := if m = 0 then f.pointText ['0'] [] else f.scientificText (digits m e)
    String.ofList (if s then '-' :: body else body)

end NumberLayout

namespace Double

/-- The literal that reads back as the double. -/
def toText (x : Double) : String :=
  NumberLayout.literal.render shortest x

/-- The double in a JSON text. -/
def toJsonText (x : Double) : String :=
  NumberLayout.json.render shortest x

/-- The double to six significant digits. -/
def toGeneralText (x : Double) : String :=
  NumberLayout.general.render (roundedTo 6) x

end Double

end Courier
