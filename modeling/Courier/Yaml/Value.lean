import Courier.Data.Literal
import Courier.Text.Base64
import Courier.Text.Lower
import Courier.Text.Quoted
import Courier.Yaml.Node

/-!
# From nodes to data

The value of a node by its tag. Faults are looked for level by level: first among the scalars of
the outermost collection, then in the collections inside it, so that of two faults the one nearer
to the root is reported. A document without a fault is then built; only that a node holds itself is
found there.
-/

namespace Courier.Yaml

/-! ## Scalars -/

/-- A text without underscores. -/
def dropBars (cs : List Char) : List Char := cs.filter (· != '_')

/-- Whether the text has a minus sign in front, and what follows a sign. -/
def splitSign (cs : List Char) : Bool × List Char :=
  (cs.head? == some '-', dropSign cs)

/-- The value of a digit in bases up to sixteen. -/
def digitIn? (base : Nat) (c : Char) : Option Nat :=
  (Text.hexDigit? c).filter (· < base)

/-- The mark that may stand in front of digits of a base. -/
def baseMark (base : Nat) : List Char :=
  if base = 2 then ['b', 'B'] else if base = 8 then ['o', 'O'] else if base = 16 then ['x', 'X']
  else []

/-- An integer in a base: white space around it, a sign and the mark of the base are allowed. -/
def integerIn (base : Nat) (cs : List Char) : Except Error Int :=
  let (negative, body) :=
    Numeral.takeSign true (Text.trimWhile Text.isAsciiBlank (Numeral.toAscii cs))
  let body :=
    match body with
    | '0' :: m :: r => if (baseMark base).contains m && !r.isEmpty then r else body
    | _ => body
  if body.isEmpty || !body.all fun c => (digitIn? base c).isSome then
    .error (.badInteger base (String.ofList cs))
  else if base = 10 ∧ maxDigits < body.length then .error (.tooManyDigits body.length)
  else
    let n : Int := body.foldl (fun n c => base * n + ((digitIn? base c).getD 0 : Nat)) (0 : Int)
    .ok (if negative then -n else n)

/-- An integer of any form. -/
def integer (text : String) : Except Error Int := do
  let cs := dropBars text.toList
  let (negative, body) := splitSign cs
  let n ←
    match body with
    | [] => throw .emptyNumber
    | '0' :: [] => pure 0
    | '0' :: 'b' :: r => integerIn 2 r
    | '0' :: 'x' :: r => integerIn 16 r
    | '0' :: _ => integerIn 8 body
    | _ =>
      if body.contains ':' then do
        let parts ← (Text.splitAtAll (· == ':') body).mapM (integerIn 10)
        pure (parts.foldl (fun n d => 60 * n + d) 0)
      else integerIn 10 body
  return if negative then -n else n

/-- A number without a base. -/
def floatPart (cs : List Char) : Except Error Double :=
  match Numeral.double? (String.ofList cs) with
  | some x => .ok x
  | none => .error (.badFloat (String.ofList cs))

/-- A number with a point. -/
def float (text : String) : Except Error Double := do
  let cs := (Text.lower (String.ofList (dropBars text.toList))).toList
  if cs.isEmpty then throw .emptyNumber
  let (negative, body) := splitSign cs
  let x ←
    if body = ".inf".toList then pure (Double.infinite false)
    else if body = ".nan".toList then pure Double.nan
    else if body.contains ':' then do
      let parts ← (Text.splitAtAll (· == ':') body).mapM floatPart
      let sum := parts.reverse.foldl (fun (s : Double × Nat) d =>
        (s.1.add (d.mul (.ofInt s.2)), s.2 * 60)) (Double.zero false, 1)
      pure sum.1
    else floatPart body
  return if negative then x.neg else x

/-- The number of days of a month. -/
def daysOfMonth (year month : Nat) : Nat :=
  if month = 2 then
    if year % 4 = 0 ∧ (year % 100 ≠ 0 ∨ year % 400 = 0) then 29 else 28
  else if month = 4 ∨ month = 6 ∨ month = 9 ∨ month = 11 then 30
  else 31

/-- A day of the calendar. -/
def calendarDay (year month day : Nat) : Except Error Day :=
  if year = 0 then .error (.outOfRange "year 0 is out of range")
  else if month = 0 ∨ 12 < month then .error (.outOfRange "month must be in 1..12")
  else if day = 0 ∨ daysOfMonth year month < day then
    .error (.outOfRange "day is out of range for month")
  else .ok ⟨year, month, day⟩

/-- The offset of a zone, less than a day. -/
def zoneOffset (negative : Bool) (hours minutes : List Char) : Except Error Int :=
  let size : Int := (Numeral.ofDigits hours * 60 + Numeral.ofDigits minutes : Nat) * 60
  let offset := if negative then -size else size
  if size < 86400 then .ok offset
  else
    .error (.outOfRange ("offset must be a timedelta strictly between " ++
      "-timedelta(hours=24) and timedelta(hours=24), not " ++ spanLiteral offset ++ "."))

/-- A day or a moment. -/
def time (text : String) : Except Error Data := do
  match timeParts? true (dropLineFeed text.toList) with
  | none => throw .badTime
  | some p =>
    let year := Numeral.ofDigits p.year
    let month := Numeral.ofDigits p.month
    let day := Numeral.ofDigits p.day
    match p.clock with
    | none => return .day (← calendarDay year month day)
    | some (h, m, s) =>
      let micro := Numeral.ofDigits
        ((p.fraction ++ List.replicate 6 '0').take 6)
      let offset ←
        match p.zone with
        | none => pure none
        | some (none, _, _) => pure (some 0)
        | some (some negative, hours, minutes) => do
          pure (some (← zoneOffset negative hours minutes))
      let d ← calendarDay year month day
      let hour := Numeral.ofDigits h
      let minute := Numeral.ofDigits m
      let second := Numeral.ofDigits s
      if 23 < hour then throw (.outOfRange "hour must be in 0..23")
      if 59 < minute then throw (.outOfRange "minute must be in 0..59")
      if 59 < second then throw (.outOfRange "second must be in 0..59")
      return .moment ⟨d, hour, minute, second, micro, offset⟩

/-- The bytes of a text in base 64 as mail programs read it: other characters are skipped, and
what follows the filling is not read. -/
def looseBytes (pending : List Nat) : List Char → Except Error (List UInt8)
  | [] => if pending.isEmpty then .ok [] else .error .malformed
  | '=' :: r =>
    match pending with
    | [b, a] =>
      if (r.filter fun c => c == '=' || (Text.Base64.digitValue? c).isSome).head? = some '=' then
        .ok [UInt8.ofNat ((a * 64 + b) / 16)]
      else looseBytes pending r
    | [c, b, a] =>
      let n := (a * 64 + b) * 64 + c
      .ok [UInt8.ofNat (n / 1024), UInt8.ofNat (n / 4 % 256)]
    | _ => looseBytes pending r
  | c :: r =>
    match Text.Base64.digitValue? c with
    | none => looseBytes pending r
    | some d =>
      match pending with
      | [c, b, a] => do
        let n := ((a * 64 + b) * 64 + c) * 64 + d
        let rest ← looseBytes [] r
        .ok (UInt8.ofNat (n / 65536) :: UInt8.ofNat (n / 256 % 256) :: UInt8.ofNat (n % 256) ::
          rest)
      | _ => looseBytes (d :: pending) r

/-- The value of a scalar. -/
def scalarValue (tag : Tag) (text : List Nat) : Except Error Data :=
  let s := String.ofList (text.map Char.ofNat)
  match tag with
  | .null => .ok .null
  | .bool =>
    match boolWords.find? fun w => w.1 == Text.lower s with
    | some w => .ok (.bool w.2)
    | none => .error (.badBool (Text.lower s))
  | .int => do return .int (← integer s)
  | .float => do return .float (← float s)
  | .binary =>
    if text.any (0x80 ≤ ·) then .error .malformed
    else do return .bytes (← looseBytes [] s.toList)
  | .timestamp => time s
  | .text => .ok (Data.ofCodes text)
  | _ => .error .malformed

/-! ## Collections -/

namespace Node

/-- The tag of a node. -/
def tag : Node → Tag
  | .scalar t _ => t
  | .sequence t _ => t
  | .mapping t _ => t
  | .endless => .unknown

/-- The text of a node that has to be a scalar. A mapping stands for its default value. -/
def text? : Nat → Node → Option (List Nat)
  | _, .scalar _ text => some text
  | fuel + 1, .mapping _ entries =>
    (entries.find? fun e => e.1.tag == .value).bind fun e => text? fuel e.2
  | _, _ => none

/-- A node as far as it is built at once: the value of a scalar, nothing of a collection. -/
def atom? (fuel : Nat) (n : Node) : Except Error (Option Data) :=
  match n with
  | .endless => .ok none
  | _ =>
    if n.tag.isCollection then .ok none
    else
      match n.text? fuel with
      | some text => do return some (← scalarValue n.tag text)
      | none => .error .malformed

/-- A key of a mapping; the sign for a default value is a text there. -/
def asKey (n : Node) : Node :=
  match n with
  | .scalar .value text => .scalar .text text
  | _ => n

/-- The entries of a mapping with those of merged mappings in front. -/
def merged : Nat → List (Node × Node) → Except Error (List (Node × Node))
  | 0, _ => .error .endless
  | fuel + 1, entries => do
    let own := (entries.filter fun e => e.1.tag != .merge).map fun e => (asKey e.1, e.2)
    let merges ← (entries.filter fun e => e.1.tag == .merge).mapM fun e =>
      match e.2 with
      | .mapping _ inner => merged fuel inner
      | .sequence _ items => do
        let parts ← items.mapM fun item =>
          match item with
          | .mapping _ inner => merged fuel inner
          | .endless => .error .endless
          | _ => .error .malformed
        return parts.reverse.flatten
      | .endless => .error .endless
      | _ => .error .malformed
    return merges.flatten ++ own

/-- The pair that an item of an ordered mapping is: a mapping of one entry. -/
def single : Node → Except Error (Node × Node)
  | .mapping _ [e] => .ok e
  | _ => .error .malformed

/-- Looks for a fault among nodes and gives the collections among them. -/
def collectionsAmong (fuel : Nat) : List Node → Except Error (List Node)
  | [] => .ok []
  | n :: rest => do
    let here := if (← n.atom? fuel).isNone then [n] else []
    return here ++ (← collectionsAmong fuel rest)

/-- Looks for a fault among the items of an ordered mapping. -/
def collectionsOfPairs (fuel : Nat) : List Node → Except Error (List Node)
  | [] => .ok []
  | item :: rest => do
    let (k, v) ← single item
    let here ← collectionsAmong fuel [k, v]
    return here ++ (← collectionsOfPairs fuel rest)

/-- Looks for a fault among entries, whose keys may not be collections. -/
def collectionsOf (fuel : Nat) : List (Node × Node) → Except Error (List Node)
  | [] => .ok []
  | (k, v) :: rest => do
    if (← k.atom? fuel).isNone then throw .malformed
    let here := if (← v.atom? fuel).isNone then [v] else []
    return here ++ (← collectionsOf fuel rest)

/-- Looks for a fault in a collection and gives the collections in it. -/
def inside (fuel : Nat) (n : Node) : Except Error (List Node) :=
  match n with
  | .sequence t items =>
    if t = .list then collectionsAmong fuel items
    else if t = .omap ∨ t = .pairs then collectionsOfPairs fuel items
    else .error .malformed
  | .mapping t entries =>
    if t = .map ∨ t = .set then do collectionsOf fuel (← merged fuel entries)
    else .error .malformed
  | .endless => .ok []
  | _ => .error .malformed

/-- Looks for a fault level by level. -/
def checkLevels : Nat → List Node → Except Error Unit
  | 0, level => if level.isEmpty then .ok () else .error .endless
  | fuel + 1, level =>
    if level.isEmpty then .ok ()
    else do
      let next ← level.mapM (inside (fuel + 1))
      checkLevels fuel next.flatten

/-- The value of a node. -/
def build : Nat → Node → Except Error Data
  | 0, _ => .error .endless
  | fuel + 1, n => do
    match ← n.atom? (fuel + 1) with
    | some v => return v
    | none =>
      match n with
      | .sequence t items =>
        if t = .list then return .list (← items.mapM (build fuel))
        else
          return .list (← items.mapM fun item => do
            let (k, v) ← single item
            return .pair (← build fuel k) (← build fuel v))
      | .mapping t entries =>
        let values ← (← merged (fuel + 1) entries).mapM fun e => do
          return (← build fuel e.1, ← build fuel e.2)
        let distinct := values.foldl (fun es e => Data.insertEntry es e.1 e.2) []
        if t = .set then return .set (distinct.map Prod.fst) else return .map distinct
      | .endless => throw .endless
      | _ => throw .malformed

end Node

/-! ## Whole texts -/

/-- Whether a character may stand in a YAML text. -/
def isAllowed (c : Char) : Bool :=
  let n := c.toNat
  n == 0x09 || n == 0x0A || n == 0x0D || (0x20 ≤ n && n ≤ 0x7E) || n == 0x85 ||
    (0xA0 ≤ n && n ≤ 0xFFFD) || 0x10000 ≤ n

/-- The data of a text; a text without a document has none. A list that holds itself is as good as
an empty one: nothing is looked for in it. -/
def read (s : String) : Except Error Data := do
  let cs := s.toList
  if !cs.all isAllowed then throw .malformed
  match ← Node.ofText cs with
  | none => return .null
  | some n =>
    let fuel := cs.length + 2
    if (← n.atom? fuel).isNone then Node.checkLevels fuel [n]
    match n.build fuel with
    | .error .endless => if n.tag = .map then throw .endless else return .list []
    | built => built

/-- The words for an error that is not one of the form of the text. -/
def Error.message : Error → String
  | .malformed => ""
  | .badInteger base text =>
    "invalid literal for int() with base " ++ toString base ++ ": " ++ Text.quoted text
  | .tooManyDigits count =>
    "Exceeds the limit (4300 digits) for integer string conversion: value has " ++
      toString count ++ " digits; use sys.set_int_max_str_digits() to increase the limit"
  | .badFloat text => "could not convert string to float: " ++ Text.quoted text
  | .badBool text => Text.quoted text
  | .emptyNumber => "string index out of range"
  | .badTime => "'NoneType' object has no attribute 'groupdict'"
  | .outOfRange message => message
  | .badCode => "chr() arg not in range(0x110000)"
  | .hugeCode => "Python int too large to convert to C int"
  | .endless => "maximum recursion depth exceeded"

end Courier.Yaml
