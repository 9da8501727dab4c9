import Courier.Data.Literal
import Courier.Number.Numeral
import Courier.Text.CodeSet

/-!
# Reading JSON

A JSON text as a value. Beyond the standard, the words `NaN`, `Infinity` and `-Infinity` are
numbers; an integer is exact, and one of more than 4300 digits is a fault of its own. The last of
two members with one name counts, in the place of the first. An escaped surrogate pair is one
character; an unpaired surrogate stays.
-/

namespace Courier.Json

/-- Why a text is not read. -/
inductive Error where
  /-- The text is not JSON. -/
  | malformed
  /-- An integer has this many digits, which is too many. -/
  | tooManyDigits (count : Nat)
  deriving DecidableEq, Repr

/-- The four characters that may stand between tokens. -/
def isSpace (c : Char) : Bool :=
  c == ' ' || c == '\t' || c == '\n' || c == '\r'

/-- The text after leading white space. -/
def skipSpace (cs : List Char) : List Char :=
  cs.dropWhile isSpace

/-- The code point of a one-letter escape. -/
def shortEscape? (c : Char) : Option Nat :=
  match c with
  | '"' => some 0x22
  | '\\' => some 0x5C
  | '/' => some 0x2F
  | 'b' => some 0x08
  | 'f' => some 0x0C
  | 'n' => some 0x0A
  | 'r' => some 0x0D
  | 't' => some 0x09
  | _ => none

/-- The code units of a string after its opening quote, and what follows the closing one. -/
def stringUnits : List Char → Option (List Nat × List Char)
  | [] => none
  | '"' :: r => some ([], r)
  | '\\' :: 'u' :: a :: b :: c :: d :: r => do
    let n := ((← Text.hexDigit? a) * 16 + (← Text.hexDigit? b)) * 256 +
      (← Text.hexDigit? c) * 16 + (← Text.hexDigit? d)
    let (us, rest) ← stringUnits r
    some (n :: us, rest)
  | '\\' :: e :: r => do
    let n ← shortEscape? e
    let (us, rest) ← stringUnits r
    some (n :: us, rest)
  | c :: r =>
    if c.toNat < 0x20 ∨ c = '\\' then none
    else do
      let (us, rest) ← stringUnits r
      some (c.toNat :: us, rest)

/-- Joins each high surrogate with a low one right after it. -/
def joinPairs : List Nat → List Nat
  | [] => []
  | [a] => [a]
  | a :: b :: r =>
    if Text.isHighSurrogate a && Text.isLowSurrogate b then
      Text.joinSurrogates a b :: joinPairs r
    else a :: joinPairs (b :: r)

/-- A string after its opening quote. -/
def stringBody (cs : List Char) : Except Error (Data × List Char) :=
  match stringUnits cs with
  | some (us, r) => .ok (Data.ofCodes (joinPairs us), r)
  | none => .error .malformed

/-- A number: an integer, or a double where there is a fraction or an exponent. -/
def number (cs : List Char) : Except Error (Data × List Char) :=
  let (negative, body) := Numeral.takeSign false cs
  let digits := body.takeWhile Numeral.isDigit
  let whole := if digits.head? = some '0' then ['0'] else digits
  let r := body.drop whole.length
  if whole.isEmpty then .error .malformed
  else
    let (fraction, r) := match r with
      | '.' :: t =>
        let ds := t.takeWhile Numeral.isDigit
        if ds.isEmpty then ([], r) else (ds, t.drop ds.length)
      | _ => ([], r)
    match Numeral.takeExponent r with
    | some (e, r) => .ok (.float (Numeral.Decimal.toDouble ⟨negative, whole, fraction, e⟩), r)
    | none =>
      if fraction.isEmpty then
        if maxDigits < whole.length then .error (.tooManyDigits whole.length)
        else .ok (.int (Numeral.ofSignedDigits negative whole), r)
      else .ok (.float (Numeral.Decimal.toDouble ⟨negative, whole, fraction, 0⟩), r)

/-- The words that stand for values. -/
def words : List (String × Data) :=
  [("null", .null), ("true", .bool true), ("false", .bool false), ("NaN", .float .nan),
   ("Infinity", .float (.infinite false)), ("-Infinity", .float (.infinite true))]

/-- A word at the beginning of `cs`. -/
def word? (cs : List Char) : Option (Data × List Char) :=
  words.findSome? fun (w, v) =>
    if w.toList.isPrefixOf cs then some (v, cs.drop w.length) else none

mutual

/-- A value, and what follows it. Each step takes a character, so a `fuel` of the text's length is
never used up. -/
def value : Nat → List Char → Except Error (Data × List Char)
  | 0, _ => .error .malformed
  | fuel + 1, cs =>
    match cs with
    | '"' :: r => stringBody r
    | '[' :: r =>
      match skipSpace r with
      | ']' :: t => .ok (.list [], t)
      | t => items fuel t
    | '\x7b' :: r =>
      match skipSpace r with
      | '\x7d' :: t => .ok (.map [], t)
      | t => members fuel [] t
    | _ =>
      match word? cs with
      | some found => .ok found
      | none => number cs

/-- The items of an array, up to its closing bracket. -/
def items : Nat → List Char → Except Error (Data × List Char)
  | 0, _ => .error .malformed
  | fuel + 1, cs => do
    let (v, r) ← value fuel cs
    match skipSpace r with
    | ']' :: t => .ok (.list [v], t)
    | ',' :: t =>
      match ← items fuel (skipSpace t) with
      | (.list vs, t) => .ok (.list (v :: vs), t)
      | _ => .error .malformed
    | _ => .error .malformed

/-- The members of an object after those in `entries`, up to its closing brace. -/
def members : Nat → List (Data × Data) → List Char → Except Error (Data × List Char)
  | 0, _, _ => .error .malformed
  | fuel + 1, entries, cs =>
    match cs with
    | '"' :: r => do
      let (k, r) ← stringBody r
      match skipSpace r with
      | ':' :: t =>
        let (v, r) ← value fuel (skipSpace t)
        let entries := Data.insertEntry entries k v
        match skipSpace r with
        | '\x7d' :: t => .ok (.map entries, t)
        | ',' :: t => members fuel entries (skipSpace t)
        | _ => .error .malformed
      | _ => .error .malformed
    | _ => .error .malformed

end

/-- Reads a text that holds one value and white space around it. -/
def read (s : String) : Except Error Data :=
  let cs := skipSpace s.toList
  match value (2 * cs.length + 2) cs with
  | .error e => .error e
  | .ok (v, r) => if (skipSpace r).isEmpty then .ok v else .error .malformed

end Courier.Json
