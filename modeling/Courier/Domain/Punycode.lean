/-!
# Punycode

A sequence of code points as letters, digits and hyphens: the ASCII characters first, and after
them, for each other code point in ascending order, how far an insertion point moves until it is
inserted. A distance is written as a number of variable length whose digits are weighted by
thresholds that adapt to the distances written before.
-/

namespace Courier.Domain.Punycode

/-- The number of digits. -/
def base : Nat := 36

/-- Divides until the value is small, counting the bias; each division at least halves. -/
def adaptLoop : Nat → Nat → Nat → Nat
  | 0, delta, k => k + 36 * delta / (delta + 38)
  | fuel + 1, delta, k =>
    if 455 < delta then adaptLoop fuel (delta / 35) (k + base) else k + 36 * delta / (delta + 38)

/-- The bias after a distance; the first distance is damped more. -/
def adapt (delta count : Nat) (first : Bool) : Nat :=
  let delta := if first then delta / 700 else delta / 2
  let delta := delta + delta / count
  adaptLoop delta delta 0

/-- The threshold of the digit at position `k`. -/
def threshold (k bias : Nat) : Nat :=
  if k ≤ bias then 1 else if k ≥ bias + 26 then 26 else k - bias

/-- The character of a digit. -/
def digitChar (d : Nat) : Char :=
  if d < 26 then Char.ofNat (97 + d) else Char.ofNat (22 + d)

/-- The digit of a character of either case. -/
def digitValue? (c : Char) : Option Nat :=
  if 'a' ≤ c ∧ c ≤ 'z' then some (c.toNat - 97)
  else if 'A' ≤ c ∧ c ≤ 'Z' then some (c.toNat - 65)
  else if '0' ≤ c ∧ c ≤ '9' then some (c.toNat - 22)
  else none

/-- The digits of a distance from position `k` on; each division makes it smaller. -/
def distanceDigits (bias : Nat) : Nat → Nat → Nat → List Char
  | 0, _, q => [digitChar q]
  | fuel + 1, k, q =>
    let t := threshold k bias
    if q < t then [digitChar q]
    else
      digitChar (t + (q - t) % (base - t)) ::
        distanceDigits bias fuel (k + base) ((q - t) / (base - t))

/-- What encoding carries from one insertion to the next. -/
structure Encoder where
  delta : Nat
  bias : Nat
  handled : Nat
  first : Bool
  output : List Char

/-- One code point of the text, while those equal to `n` are inserted. -/
def encodeAt (n : Nat) (s : Encoder) (c : Nat) : Encoder :=
  if c < n then { s with delta := s.delta + 1 }
  else if c = n then
    let digits := distanceDigits s.bias s.delta base s.delta
    { delta := 0, bias := adapt s.delta (s.handled + 1) s.first, handled := s.handled + 1,
      first := false, output := s.output ++ digits }
  else s

/-- Inserts the code points `ns`, ascending, after all below `low` are in place. -/
def encodeFrom (codes : List Nat) : List Nat → Nat → Encoder → Encoder
  | [], _, s => s
  | n :: ns, low, s =>
    let s := { s with delta := s.delta + (n - low) * (s.handled + 1) }
    let s := codes.foldl (encodeAt n) s
    encodeFrom codes ns (n + 1) { s with delta := s.delta + 1 }

/-- Inserts a number into an ascending list without repetition. -/
def insertOnce (n : Nat) : List Nat → List Nat
  | [] => [n]
  | m :: rest => if n < m then n :: m :: rest else if n = m then m :: rest
    else m :: insertOnce n rest

/-- The Punycode of code points. -/
def encode (codes : List Nat) : List Char :=
  let plain := codes.filter (· < 0x80)
  let start := plain.map Char.ofNat ++ (if plain.isEmpty then [] else ['-'])
  let others := (codes.filter (0x80 ≤ ·)).foldl (fun ns n => insertOnce n ns) []
  (encodeFrom codes others 0x80 ⟨0, 72, plain.length, true, start⟩).output

/-- Reads a distance: its value and what follows it. -/
def readDistance (bias : Nat) : Nat → Nat → Nat → List Char → Option (Nat × List Char)
  | _, _, _, [] => none
  | k, w, sum, c :: rest => do
    let d ← digitValue? c
    let t := threshold k bias
    let sum := sum + d * w
    if d < t then some (sum, rest) else readDistance bias (k + base) (w * (base - t)) sum rest

/-- Inserts one code point after another; `fuel` bounds their number by that of the digits. -/
def decodeFrom : Nat → Nat → Nat → Nat → Bool → List Nat → List Char → Option (List Nat)
  | _, _, _, _, _, codes, [] => some codes
  | 0, _, _, _, _, _, _ => none
  | fuel + 1, n, i, bias, first, codes, cs => do
    let (delta, rest) ← readDistance bias base 1 0 cs
    let size := codes.length + 1
    let position := i + delta
    let n := n + position / size
    let i := position % size
    if 0x10FFFF < n then none
    else
      decodeFrom fuel n (i + 1) (adapt delta size first) false
        (codes.take i ++ n :: codes.drop i) rest

/-- The code points that ASCII characters encode. -/
def decode? (cs : List Char) : Option (List Nat) :=
  let tail := (cs.reverse.takeWhile (· != '-')).reverse
  let plain := (cs.take (cs.length - tail.length)).dropLast
  decodeFrom cs.length 0x80 0 72 true (plain.map Char.toNat) tail

/-- Inserts code points as long as a distance can be read. A code point beyond the last one counts
as a question mark. -/
def salvageFrom : Nat → Nat → Nat → Nat → Bool → List Nat → List Char → List Nat
  | 0, _, _, _, _, codes, _ => codes
  | fuel + 1, n, i, bias, first, codes, cs =>
    match readDistance bias base 1 0 cs with
    | none => codes
    | some (delta, rest) =>
      let size := codes.length + 1
      let position := i + delta
      let n := n + position / size
      let n := if 0x10FFFF < n then '?'.toNat else n
      let i := position % size
      salvageFrom fuel n (i + 1) (adapt delta size first) false
        (codes.take i ++ n :: codes.drop i) rest

/-- The code points that can be made out: those in front, and the ones that the digits insert. -/
def salvage (plain : List Nat) (digits : List Char) : List Nat :=
  salvageFrom digits.length 0x80 0 72 true plain digits

end Courier.Domain.Punycode
