/-!
# Sets of code points

A character class is written as a text of hexadecimal code points and ranges, `41-5a 61-7a 5f`, in
ascending order, and looked up by bisection. `CodeRuns` is the same for a mapping: each run gives
the first and last code point, the stride between them and the distance that the mapping adds.
-/

namespace Courier.Text

/-- The value of a hexadecimal digit of either case. -/
def hexDigit? (c : Char) : Option Nat :=
  if '0' ≤ c ∧ c ≤ '9' then some (c.toNat - 48)
  else if 'a' ≤ c ∧ c ≤ 'f' then some (c.toNat - 87)
  else if 'A' ≤ c ∧ c ≤ 'F' then some (c.toNat - 55)
  else none

/-- Cuts a list at every element that satisfies `p`; the cuts are dropped. -/
def splitAtAll {α : Type} (p : α → Bool) : List α → List (List α)
  | [] => [[]]
  | c :: r =>
    match splitAtAll p r with
    | [] => [[c]]
    | g :: gs => if p c then [] :: g :: gs else (c :: g) :: gs

/-- The number written by hexadecimal digits; other characters count as zero. -/
def hexValue (cs : List Char) : Nat :=
  cs.foldl (fun n c => 16 * n + (hexDigit? c).getD 0) 0

/-- The items of a text, which stand between spaces and line breaks. -/
def items (s : String) : List (List Char) :=
  (splitAtAll (fun c => c == ' ' || c == '\n') s.toList).filter fun item => !item.isEmpty

/-- Disjoint ranges of code points in ascending order. -/
structure CodeSet where
  ranges : Array (Nat × Nat)

namespace CodeSet

/-- Reads `41-5a 61-7a 5f`. -/
def ofText (s : String) : CodeSet :=
  ⟨((items s).filterMap fun item =>
    match splitAtAll (· == '-') item with
    | [a, b] => some (hexValue a, hexValue b)
    | [a] => some (hexValue a, hexValue a)
    | _ => none).toArray⟩

/-- Bisection between `lo` and `hi`; `fuel` bounds the number of halvings. -/
def find (t : CodeSet) (n : Nat) : Nat → Nat → Nat → Bool
  | 0, _, _ => false
  | fuel + 1, lo, hi =>
    if lo < hi then
      let mid := (lo + hi) / 2
      match t.ranges[mid]? with
      | none => false
      | some (a, b) =>
        if n < a then t.find n fuel lo mid
        else if b < n then t.find n fuel (mid + 1) hi
        else true
    else false

/-- Whether the code point `n` lies in one of the ranges. -/
def contains (t : CodeSet) (n : Nat) : Bool :=
  t.find n 32 0 t.ranges.size

end CodeSet

/-- One run of a mapping: every `stride`-th code point from `first` to `last` moves by `shift`. -/
structure CodeRun where
  first : Nat
  last : Nat
  stride : Nat
  shift : Int

/-- A mapping of code points, as runs. -/
structure CodeRuns where
  runs : Array CodeRun

namespace CodeRuns

/-- Reads items `first,last,stride,shift`, all hexadecimal, the shift perhaps negative. -/
def ofText (s : String) : CodeRuns :=
  ⟨((items s).filterMap fun item =>
    match splitAtAll (· == ',') item with
    | [a, b, st, '-' :: d] => some ⟨hexValue a, hexValue b, hexValue st, -(hexValue d : Int)⟩
    | [a, b, st, d] => some ⟨hexValue a, hexValue b, hexValue st, hexValue d⟩
    | _ => none).toArray⟩

/-- The image of `n`, or `none` where no run holds it. -/
def image? (t : CodeRuns) (n : Nat) : Option Nat :=
  (t.runs.find? fun r => r.first ≤ n && n ≤ r.last && (n - r.first) % r.stride == 0).map fun r =>
    ((n : Int) + r.shift).toNat

end CodeRuns

end Courier.Text
