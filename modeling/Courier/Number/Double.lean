/-!
# Double-precision numbers

A double is held as its exact value: a sign, a natural mantissa and a power of two. Every finite
double is a ratio of integers, so sums, differences, products and comparisons are computed exactly
and then rounded once, to the nearest double with ties to an even mantissa.
-/

namespace Courier

/-- A double: not a number, an infinity, or `(-1)^negative * mantissa * 2^exponent`. -/
inductive Double where
  | nan
  | infinite (negative : Bool)
  | finite (negative : Bool) (mantissa : Nat) (exponent : Int)
  deriving DecidableEq, Repr, Inhabited

namespace Double

/-- The least exponent of a double. -/
def minExponent : Int := -1074

/-- The greatest exponent of a double with a full mantissa. -/
def maxExponent : Int := 971

/-- A zero of either sign. -/
def zero (negative : Bool) : Double :=
  .finite negative 0 minExponent

/-- The quotient rounded to the nearest natural number, a tie to the even one. -/
def roundDiv (num den : Nat) : Nat :=
  let q := num / den
  let r := num % den
  if 2 * r < den then q
  else if den < 2 * r then q + 1
  else q + q % 2

/-- `2^e` as the factor of a numerator, one where `e` is negative. -/
def scaleUp (base : Nat) (e : Int) : Nat := base.pow e.toNat

/-- `num / den` as the nearest double. -/
def roundRatio (negative : Bool) (num den : Nat) : Double :=
  if num = 0 then zero negative
  else
    let guess : Int := (Nat.log2 num : Int) - (Nat.log2 den : Int)
    -- `guess` is the binary exponent of the quotient or one more
    let below :=
      if scaleUp 2 guess * den ≤ num * scaleUp 2 (-guess) then guess else guess - 1
    let e := max (below - 52) minExponent
    let m := roundDiv (num * scaleUp 2 (-e)) (den * scaleUp 2 e)
    let (m, e) := if m = Nat.pow 2 53 then (Nat.pow 2 52, e + 1) else (m, e)
    if maxExponent < e then .infinite negative
    else if m = 0 then zero negative
    else .finite negative m e

/-- The integer `n * base^e` or its quotient by the opposite power, as a double. -/
def ofScaled (negative : Bool) (n base : Nat) (e : Int) : Double :=
  roundRatio negative (n * scaleUp base e) (scaleUp base (-e))

/-- The double nearest to an integer; far outside the range it is an infinity. -/
def ofInt (n : Int) : Double :=
  roundRatio (n < 0) n.natAbs 1

/-- The double nearest to `n * 10^e`. A numeral far beyond either end of the range is settled by
its magnitude, `size` being the number of digits of `n`. -/
def ofDecimal (negative : Bool) (n : Nat) (size : Nat) (e : Int) : Double :=
  if n = 0 then zero negative
  else if (400 : Int) < e + size then .infinite negative
  else if e + size < -400 then zero negative
  else ofScaled negative n 10 e

/-- Whether the value is neither infinite nor no number. -/
def isFinite : Double → Bool
  | finite .. => true
  | _ => false

/-- The mantissa with its sign. -/
def signed (negative : Bool) (m : Nat) : Int :=
  if negative then -(m : Int) else m

/-- The value as a multiple of `2^e`, for an `e` not above the exponent. -/
def aligned (negative : Bool) (m : Nat) (exponent e : Int) : Int :=
  signed negative m * scaleUp 2 (exponent - e)

/-- The double nearest to `n * 2^e`; a zero gets the sign given. -/
def ofAligned (n : Int) (e : Int) (zeroSign : Bool) : Double :=
  if n = 0 then zero zeroSign else ofScaled (n < 0) n.natAbs 2 e

/-- The opposite number. -/
def neg : Double → Double
  | nan => nan
  | infinite s => infinite !s
  | finite s m e => finite (!s) m e

/-- The sum, rounded. -/
def add : Double → Double → Double
  | nan, _ => nan
  | _, nan => nan
  | infinite s, infinite t => if s = t then infinite s else nan
  | infinite s, _ => infinite s
  | _, infinite t => infinite t
  | finite s m e, finite t n f =>
    let low := min e f
    ofAligned (aligned s m e low + aligned t n f low) low (s && t)

/-- The difference, rounded. -/
def sub (x y : Double) : Double :=
  x.add y.neg

/-- The product, rounded. -/
def mul : Double → Double → Double
  | nan, _ => nan
  | _, nan => nan
  | infinite s, infinite t => infinite (s ^^ t)
  | infinite s, finite t n _ => if n = 0 then nan else infinite (s ^^ t)
  | finite s m _, infinite t => if m = 0 then nan else infinite (s ^^ t)
  | finite s m e, finite t n f => ofScaled (s ^^ t) (m * n) 2 (e + f)

/-- Whether the first is less than the second; false where either is no number. -/
def lt : Double → Double → Bool
  | nan, _ => false
  | _, nan => false
  | infinite s, infinite t => s && !t
  | infinite s, _ => s
  | _, infinite t => !t
  | finite s m e, finite t n f =>
    let low := min e f
    decide (aligned s m e low < aligned t n f low)

/-- Whether both are the same number; zeros of both signs are. -/
def eq : Double → Double → Bool
  | nan, _ => false
  | _, nan => false
  | infinite s, infinite t => s == t
  | infinite _, _ => false
  | _, infinite _ => false
  | finite s m e, finite t n f =>
    let low := min e f
    decide (aligned s m e low = aligned t n f low)

/-- The exact order of a double and an integer. -/
def compareInt (x : Double) (n : Int) : Option Ordering :=
  match x with
  | nan => none
  | infinite s => some (if s then .lt else .gt)
  | finite s m e =>
    let low := min e 0
    some (compare (aligned s m e low) (n * scaleUp 2 (-low)))

/-- The integer part of a finite double. -/
def trunc? : Double → Option Int
  | finite s m e =>
    let size := if 0 ≤ e then m * scaleUp 2 e else m / scaleUp 2 (-e)
    some (signed s size)
  | _ => none

/-- The integer that a finite double equals, if it is one. -/
def integral? (x : Double) : Option Int :=
  match x.trunc? with
  | some n => if x.compareInt n = some .eq then some n else none
  | none => none

end Double

end Courier
