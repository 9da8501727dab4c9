import Courier.Number.Double
import Courier.Text.CodePoint

/-!
# Data

Values read from YAML and JSON texts: scalars, sequences and mappings. A mapping keeps its entries
in the order of their first appearance, and its keys are values of any kind. Equality is that of
the values meant: `true`, `1` and `1.0` are equal, an integer equals a double only if it is exactly
that number, a value that is no number differs from itself, and the order of a mapping's entries
does not matter.
-/

namespace Courier

/-- A day of the calendar. -/
structure Day where
  year : Nat
  month : Nat
  day : Nat
  deriving DecidableEq, Repr

/-- A time of a day, in the zone with the offset given in seconds, if one is known. -/
structure Moment where
  day : Day
  hour : Nat
  minute : Nat
  second : Nat
  micro : Nat
  offset : Option Int
  deriving DecidableEq, Repr

/-- A value. Text with unpaired surrogates is kept as its code points. -/
inductive Data where
  | null
  | bool (b : Bool)
  | int (n : Int)
  | float (x : Double)
  | text (s : String)
  | brokenText (codes : List Nat)
  | bytes (bs : List UInt8)
  | list (items : List Data)
  | map (entries : List (Data × Data))
  | set (members : List Data)
  | pair (first second : Data)
  | day (d : Day)
  | moment (m : Moment)
  deriving Inhabited

/-- Days before the first of January of the year 1, in the calendar extended backwards. -/
def Day.number (d : Day) : Int :=
  let y : Int := if d.month ≤ 2 then d.year - 1 else d.year
  let m : Int := if d.month ≤ 2 then d.month + 9 else d.month - 3
  365 * y + y / 4 - y / 100 + y / 400 + (153 * m + 2) / 5 + d.day

/-- Microseconds on the common time line of zones, or on the local one without a zone. -/
def Moment.instant (m : Moment) : Int :=
  ((m.day.number * 24 + m.hour) * 60 + m.minute) * 60 * 1000000 + m.second * 1000000 + m.micro -
    m.offset.getD 0 * 1000000

/-- Whether two moments are the same; one with a zone never is one without. -/
def Moment.same (a b : Moment) : Bool :=
  a.offset.isSome == b.offset.isSome && a.instant == b.instant

namespace Data

/-- The exact numeric value of a scalar that has one. -/
inductive Amount where
  | whole (n : Int)
  | double (x : Double)

/-- Booleans count as zero and one. -/
def amount? : Data → Option Amount
  | .bool b => some (.whole (if b then 1 else 0))
  | .int n => some (.whole n)
  | .float x => some (.double x)
  | _ => none

/-- The order of two amounts, compared exactly; none where one is no number. -/
def Amount.compare : Amount → Amount → Option Ordering
  | .whole a, .whole b => some (Ord.compare a b)
  | .whole a, .double y => (y.compareInt a).map Ordering.swap
  | .double x, .whole b => x.compareInt b
  | .double x, .double y =>
    if x.lt y then some .lt else if y.lt x then some .gt else if x.eq y then some .eq else none

/-- Equality of two values that hold no others. -/
def sameScalar (a b : Data) : Bool :=
  match a.amount?, b.amount? with
  | some x, some y => x.compare y == some .eq
  | some _, none => false
  | none, some _ => false
  | none, none =>
    match a, b with
    | .null, .null => true
    | .text s, .text t => s == t
    | .brokenText s, .brokenText t => s == t
    | .bytes s, .bytes t => s == t
    | .day s, .day t => s == t
    | .moment s, .moment t => s.same t
    | _, _ => false

mutual

/-- Equality of values. -/
def same : Data → Data → Bool
  | .list xs, b => match b with
    | .list ys => sameItems xs ys
    | _ => false
  | .map xs, b => match b with
    | .map ys => xs.length == ys.length && sameEntries xs ys
    | _ => false
  | .set xs, b => match b with
    | .set ys => xs.length == ys.length && sameMembers xs ys
    | _ => false
  | .pair x y, b => match b with
    | .pair z w => same x z && same y w
    | _ => false
  | a, b => sameScalar a b

/-- Equality item by item. -/
def sameItems : List Data → List Data → Bool
  | [], ys => ys.isEmpty
  | x :: xs, ys => match ys with
    | [] => false
    | y :: ys => same x y && sameItems xs ys

/-- Whether each entry of the first has a counterpart in the second. -/
def sameEntries : List (Data × Data) → List (Data × Data) → Bool
  | [], _ => true
  | (k, v) :: xs, ys =>
    (match ys.find? fun e => same k e.1 with
      | some e => same v e.2
      | none => false) && sameEntries xs ys

/-- Whether each member of the first is one of the second. -/
def sameMembers : List Data → List Data → Bool
  | [], _ => true
  | x :: xs, ys => ys.any (fun y => same x y) && sameMembers xs ys

end

/-- The value that belongs to a key of a mapping. -/
def lookup? (entries : List (Data × Data)) (key : Data) : Option Data :=
  (entries.find? fun e => same key e.1).map Prod.snd

/-- Gives a key a value. A key that is there keeps its spelling and place. -/
def insertEntry (entries : List (Data × Data)) (key value : Data) : List (Data × Data) :=
  match entries with
  | [] => [(key, value)]
  | (k, v) :: rest =>
    if same key k then (k, value) :: rest else (k, v) :: insertEntry rest key value

/-- Whether the value counts as absent: null, false, zero, or without content. -/
def isEmptyValue : Data → Bool
  | .null => true
  | .bool b => !b
  | .int n => n == 0
  | .float x => x.eq (.zero false)
  | .text s => s.isEmpty
  | .brokenText codes => codes.isEmpty
  | .bytes bs => bs.isEmpty
  | .list items => items.isEmpty
  | .map entries => entries.isEmpty
  | .set members => members.isEmpty
  | _ => false

/-- A text given by code points, which may include unpaired surrogates. -/
def ofCodes (codes : List Nat) : Data :=
  if codes.any Text.isSurrogate then .brokenText codes
  else .text (String.ofList (codes.map Char.ofNat))

/-- A text as a value. -/
def ofCodeText (t : CodeText) : Data := ofCodes t.codes

/-- The code points of a text. -/
def codes? : Data → Option (List Nat)
  | .text s => some (s.toList.map Char.toNat)
  | .brokenText codes => some codes
  | _ => none

end Data

end Courier
