import Courier.Data.Basic
import Mathlib.Algebra.Order.Field.Rat
import Mathlib.Order.Compare
import Mathlib.Order.WithBot
import Mathlib.Tactic.Linarith

/-!
# Comparison is exact

Integers and doubles are compared as the numbers they are, and neither is rounded for it
(`Data.Amount.compare_eq`). A finite double is a multiple of a power of two, so that two numbers are
aligned to the lesser exponent and compared there; the infinities stand below and above all others,
and what is no number is not compared.
-/

namespace Courier

/-- The fractions with an infinity at either end. -/
abbrev Exact := WithBot (WithTop ℚ)

/-- A fraction. -/
def Exact.ofRat (q : ℚ) : Exact := ((q : WithTop ℚ) : WithBot (WithTop ℚ))

/-- Fractions keep their order. -/
theorem Exact.cmp_ofRat (p q : ℚ) : cmp (ofRat p) (ofRat q) = cmp p q := by
  rw [ofRat, ofRat, WithBot.coe_strictMono.cmp_map_eq, WithTop.coe_strictMono.cmp_map_eq]

/-- Fractions are less than each other as they are among themselves. -/
theorem Exact.ofRat_lt_ofRat_iff (p q : ℚ) : ofRat p < ofRat q ↔ p < q := by
  rw [ofRat, ofRat, WithBot.coe_lt_coe, WithTop.coe_lt_coe]

namespace Double

/-- The number that a double is. -/
def exactValue? : Double → Option Exact
  | nan => none
  | infinite negative => some (if negative then ⊥ else ⊤)
  | finite negative m e => some (.ofRat (signed negative m * 2 ^ e))

/-- The factor of an exponent that is not negative is the power. -/
theorem cast_scaleUp {e : ℤ} (h : 0 ≤ e) : ((scaleUp 2 e : ℤ) : ℚ) = 2 ^ e := by
  rw [scaleUp, Nat.pow_eq]
  push_cast
  rw [← zpow_natCast, Int.toNat_of_nonneg h]

/-- A double aligned to a lesser exponent is the same number. -/
theorem aligned_mul {e low : ℤ} (h : low ≤ e) (negative : Bool) (m : ℕ) :
    (aligned negative m e low : ℚ) * 2 ^ low = signed negative m * 2 ^ e := by
  rw [aligned, Int.cast_mul, cast_scaleUp (by omega), mul_assoc, ← zpow_add₀ two_ne_zero,
    sub_add_cancel]

/-- An integer aligned to an exponent that is not positive is the same number. -/
theorem scaled_mul {low : ℤ} (h : low ≤ 0) (n : ℤ) :
    ((n * scaleUp 2 (-low) : ℤ) : ℚ) * 2 ^ low = n := by
  rw [Int.cast_mul, cast_scaleUp (by omega), mul_assoc, ← zpow_add₀ two_ne_zero,
    neg_add_cancel, zpow_zero, mul_one]

/-- Numbers stand in the order of the integers that they are aligned to. -/
theorem cmp_of_aligned {p q : ℚ} {a b low : ℤ} (hp : (a : ℚ) * 2 ^ low = p)
    (hq : (b : ℚ) * 2 ^ low = q) : cmp (Exact.ofRat p) (Exact.ofRat q) = compare a b := by
  have hpos : (0 : ℚ) < 2 ^ low := zpow_pos two_pos low
  rw [Exact.cmp_ofRat, ← hp, ← hq, cmp_mul_pos_right hpos, Int.cast_strictMono.cmp_map_eq,
    cmp_eq_compare]

/-- A double and an integer are compared exactly. -/
theorem compareInt_eq (x : Double) (n : ℤ) :
    x.compareInt n = x.exactValue?.map fun p => cmp p (.ofRat n) := by
  cases x with
  | nan => rfl
  | infinite negative => cases negative <;> rfl
  | finite negative m e =>
    have hcmp := cmp_of_aligned (aligned_mul (min_le_left e 0) negative m)
      (scaled_mul (min_le_right e 0) n)
    exact congrArg some hcmp.symm

end Double

namespace Data

/-- The number that an amount is. -/
def Amount.exactValue? : Amount → Option Exact
  | .whole n => some (.ofRat n)
  | .double x => x.exactValue?

/-- Two doubles are compared exactly. -/
theorem Amount.compare_double (x y : Double) :
    (Amount.double x).compare (.double y) = Option.map₂ cmp x.exactValue? y.exactValue? := by
  cases x with
  | nan => cases y <;> rfl
  | infinite s =>
    cases y with
    | nan => cases s <;> rfl
    | infinite t => cases s <;> cases t <;> rfl
    | finite t n f => cases s <;> rfl
  | finite s m e =>
    cases y with
    | nan => rfl
    | infinite t => cases t <;> rfl
    | finite t n f =>
      have hcmp := Double.cmp_of_aligned (Double.aligned_mul (min_le_left e f) s m)
        (Double.aligned_mul (min_le_right e f) t n)
      change _ = some (cmp _ _)
      rw [hcmp]
      simp only [Amount.compare, Double.lt, Double.eq, min_comm f e, decide_eq_true_eq]
      -- of two integers, one is less or they are equal
      rcases lt_trichotomy (Double.aligned s m e (min e f)) (Double.aligned t n f (min e f)) with
        h | h | h
      · rw [if_pos h, compare_lt_iff_lt.2 h]
      · simp [h]
      · rw [if_neg h.not_gt, if_pos h, compare_gt_iff_gt.2 h]

/-- Amounts are compared as the numbers that they are. -/
theorem Amount.compare_eq (x y : Amount) :
    x.compare y = Option.map₂ cmp x.exactValue? y.exactValue? := by
  cases x with
  | whole a =>
    cases y with
    | whole b =>
      have hcmp : cmp (Exact.ofRat a) (Exact.ofRat b) = Ord.compare a b := by
        rw [Exact.cmp_ofRat, Int.cast_strictMono.cmp_map_eq, cmp_eq_compare]
      exact congrArg some hcmp.symm
    | double y =>
      have hcompare : (Amount.whole a).compare (.double y) = (y.compareInt a).map .swap := rfl
      rw [hcompare, y.compareInt_eq]
      change _ = Option.map₂ cmp (some (Exact.ofRat a)) y.exactValue?
      cases y.exactValue? with
      | none => rfl
      | some q => exact congrArg some (cmp_swap q _)
  | double x =>
    cases y with
    | whole b =>
      have hcompare : (Amount.double x).compare (.whole b) = x.compareInt b := rfl
      rw [hcompare, x.compareInt_eq]
      change _ = Option.map₂ cmp x.exactValue? (some (Exact.ofRat b))
      cases x.exactValue? <;> rfl
    | double y => exact compare_double x y

/-- The number that a value is. Truth values count as zero and one. -/
def exactValue? (v : Data) : Option Exact :=
  v.amount?.bind Amount.exactValue?

end Data

end Courier
