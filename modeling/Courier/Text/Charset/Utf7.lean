import Courier.Text.Base64
import Courier.Text.Charset.SingleByte
import Courier.Text.Surrogate

/-!
# UTF-7

ASCII in which a plus sign begins a run of base 64 and a hyphen, or any other character, ends it.
The run holds units of sixteen bits. What is wrong gives one replacement character, and reading goes
on behind it. A first half of a pair that is followed by anything but base 64 stays by itself.
-/

namespace Courier.Text.Charset.Utf7

/-- A run of base 64: the bits that make up no unit yet, how many they are, and the first half of a
pair that waits for the second. -/
structure Run where
  bits : Nat
  count : Nat
  high : Option Nat
  deriving DecidableEq, Repr

/-- The beginning of a run. -/
def Run.start : Run := ⟨0, 0, none⟩

/-- The six bits of a byte. -/
def digit? (b : UInt8) : Option Nat :=
  Base64.digitValue? (Char.ofNat b.toNat)

/-- The code points that are known after one more unit, and the half that waits. -/
def Run.unit (r : Run) (n : Nat) : List Nat × Option Nat :=
  match r.high with
  | some h =>
    if isLowSurrogate n then ([joinSurrogates h n], none)
    else if isHighSurrogate n then ([h], some n)
    else ([h, n], none)
  | none => if isHighSurrogate n then ([], some n) else ([n], none)

/-- The run after six more bits, and the code points that are known with them. -/
def Run.push (r : Run) (d : Nat) : List Nat × Run :=
  let bits := r.bits * 64 + d
  let count := r.count + 6
  if 16 ≤ count then
    let (codes, high) := r.unit (bits / Nat.pow 2 (count - 16))
    (codes, ⟨bits % Nat.pow 2 (count - 16), count - 16, high⟩)
  else ([], ⟨bits, count, r.high⟩)

/-- Whether the bits that are left make up no unit. -/
def Run.isBroken (r : Run) : Bool :=
  6 ≤ r.count || (0 < r.count && r.bits != 0)

/-- The code point of what is wrong. -/
def wrong : Nat := replacement.toNat

/-- The code points of bytes, inside a run or outside. -/
def decodeFrom : Option Run → List UInt8 → List Nat
  | none, [] => []
  | some r, [] => if r.high.isSome || r.isBroken then [wrong] else []
  | none, b :: rest =>
    if b.toNat = 0x2B then
      match rest with
      | [] => []
      | c :: after =>
        if c.toNat = 0x2D then 0x2B :: decodeFrom none after
        else if (digit? c).isNone then wrong :: decodeFrom none after
        else decodeFrom (some .start) (c :: after)
    else (if b.toNat < 0x80 then b.toNat else wrong) :: decodeFrom none rest
  | some r, b :: rest =>
    match digit? b with
    | some d =>
      let (codes, run) := r.push d
      codes ++ decodeFrom (some run) rest
    | none =>
      if r.isBroken then wrong :: decodeFrom none rest
      else
        let half := if b.toNat < 0x80 && b.toNat != 0x2B then r.high.toList else []
        if b.toNat = 0x2D then half ++ decodeFrom none rest
        else half ++ decodeFrom none (b :: rest)
  termination_by run bytes => (bytes.length, if run.isSome then 1 else 0)

/-- The code points of bytes. -/
def decode (bytes : List UInt8) : List Nat := decodeFrom none bytes

end Courier.Text.Charset.Utf7
