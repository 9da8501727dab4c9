import Courier.Number.Double

/-!
# Shortest decimal digits

The shortest decimal text that reads back as a given double. The numbers that round to a double
form an interval, whose ends belong to it when the mantissa is even. On the grid of decimals with
`n` digits only the two neighbours of the value need testing: if any point of the grid lies in the
interval, one of them does. The first `n` that has one wins, and of two the nearer.
-/

namespace Courier

/-- Decimal digits `d₁d₂…` that stand for `d₁.d₂… * 10^exponent`; the last digit is not zero
unless it is the only one. -/
structure Scientific where
  digits : List Char
  exponent : Int
  deriving DecidableEq, Repr

namespace Scientific

/-- The digits of `n` read as a multiple of `10^e`. -/
def ofNat (n : Nat) (e : Int) : Scientific :=
  let digits := Nat.toDigits 10 n
  let kept := (digits.reverse.dropWhile (· == '0')).reverse
  ⟨if kept.isEmpty then ['0'] else kept, e + digits.length - 1⟩

end Scientific

namespace Double

/-- The exponent of the first decimal digit of `m * 2^e`. No double is below `10^-330`. -/
def decimalExponent (m : Nat) (e : Int) : Int :=
  let scaled := m * scaleUp 2 e * Nat.pow 10 330 / scaleUp 2 (-e)
  (Nat.toDigits 10 scaled).length - 331

/-- The interval of numbers that round to `m * 2^e`, as multiples of `2^(e - 2)`. The gap below a
power of two is half as wide as the gap above. -/
def interval (m : Nat) (e : Int) : Nat × Nat :=
  (if m = Nat.pow 2 52 ∧ minExponent < e then 4 * m - 1 else 4 * m - 2, 4 * m + 2)

/-- The multiple of `10^k` in the interval around `m * 2^e`, the nearer of two. -/
def gridPoint? (m : Nat) (e k : Int) : Option Nat :=
  let (low, high) := interval m e
  let up := scaleUp 2 (e - 2) * scaleUp 10 (-k)
  let down := scaleUp 2 (2 - e) * scaleUp 10 k
  let value := 4 * m * up
  let inside (d : Nat) : Bool :=
    if m % 2 = 0 then decide (low * up ≤ d * down ∧ d * down ≤ high * up)
    else decide (low * up < d * down ∧ d * down < high * up)
  let d := value / down
  match inside d && d != 0, inside (d + 1) with
  | true, true =>
    let rest := value % down
    -- of two candidates the nearer; a tie goes to the even one
    if 2 * rest < down ∨ (2 * rest = down ∧ d % 2 = 0) then some d else some (d + 1)
  | true, false => some d
  | false, true => some (d + 1)
  | false, false => none

/-- The shortest digits of `m * 2^e`, for a positive `m`. Seventeen always suffice. -/
def shortest (m : Nat) (e : Int) : Scientific :=
  let top := decimalExponent m e
  let found := (List.range 17).findSome? fun (i : Nat) =>
    let k := top - i
    (gridPoint? m e k).map fun d => Scientific.ofNat d k
  found.getD ⟨['0'], 0⟩

/-- `m * 2^e` rounded to `count` significant decimal digits, for a positive `m`. -/
def roundedTo (count : Nat) (m : Nat) (e : Int) : Scientific :=
  let k := decimalExponent m e - count + 1
  Scientific.ofNat
    (roundDiv (m * scaleUp 2 e * scaleUp 10 (-k)) (scaleUp 2 (-e) * scaleUp 10 k)) k

end Double

end Courier
