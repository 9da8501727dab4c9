import Courier.Number.Numeral

/-!
# Tags

The kind of data that a node stands for. A plain scalar without a tag gets the kind whose form its
text has, and is a text if it has none of them.
-/

namespace Courier.Yaml

/-- The kinds of data; of the last, nothing is read. -/
inductive Tag where
  | null
  | bool
  | int
  | float
  | binary
  | timestamp
  | omap
  | pairs
  | set
  | text
  | list
  | map
  | merge
  | value
  | unknown
  deriving DecidableEq, Repr

namespace Tag

/-- What the names of the standard kinds begin with. -/
def standard : String := "tag:yaml.org,2002:"

/-- The standard kinds by their names. -/
def names : List (String × Tag) :=
  [("null", .null), ("bool", .bool), ("int", .int), ("float", .float), ("binary", .binary),
   ("timestamp", .timestamp), ("omap", .omap), ("pairs", .pairs), ("set", .set), ("str", .text),
   ("seq", .list), ("map", .map), ("merge", .merge), ("value", .value)]

/-- The kind of a full name. -/
def ofName (name : String) : Tag :=
  ((names.find? fun n => standard ++ n.1 == name).map Prod.snd).getD .unknown

/-- Whether nodes of the kind are collections. -/
def isCollection : Tag → Bool
  | .omap | .pairs | .set | .list | .map => true
  | _ => false

end Tag

open Numeral (isDigit)

/-- The words for truth values. -/
def boolWords : List (String × Bool) :=
  [("yes", true), ("no", false), ("true", true), ("false", false), ("on", true), ("off", false)]

/-- A word in the three spellings in which it counts. -/
def spellings (word : String) : List String :=
  match word.toList with
  | [] => []
  | c :: r =>
    [word, String.ofList (c.toUpper :: r), String.ofList ((c :: r).map Char.toUpper)]

/-- Whether a character is a digit or an underscore. -/
def isDigitOrBar (c : Char) : Bool := isDigit c || c == '_'

/-- The characters after a sign. -/
def dropSign (cs : List Char) : List Char :=
  match cs with
  | '+' :: r => r
  | '-' :: r => r
  | _ => cs

/-- Whether characters are groups of one or two digits below sixty, each after a colon. -/
def isSexagesimal : List Char → Bool
  | [] => true
  | ':' :: a :: b :: r =>
    if isDigit a && isDigit b then decide (a ≤ '5') && isSexagesimal r
    else isDigit a && isSexagesimal (b :: r)
  | [':', a] => isDigit a
  | _ => false

/-- Whether a text has the form of an integer: binary, octal, decimal, hexadecimal, or in
sixties. -/
def isInteger (cs : List Char) : Bool :=
  match dropSign cs with
  | [] => false
  | '0' :: r =>
    r.all (fun c => ('0' ≤ c && c ≤ '7') || c == '_') ||
      (match r with
      | 'b' :: t => !t.isEmpty && t.all fun c => c == '0' || c == '1' || c == '_'
      | 'x' :: t =>
        !t.isEmpty && t.all fun c =>
          isDigitOrBar c || ('a' ≤ c && c ≤ 'f') || ('A' ≤ c && c ≤ 'F')
      | _ => false)
  | c :: r => isDigit c && isSexagesimal (r.dropWhile isDigitOrBar)

/-- Whether characters are nothing, or an exponent with a sign. -/
def isExponent : List Char → Bool
  | [] => true
  | e :: s :: r =>
    (e == 'e' || e == 'E') && (s == '+' || s == '-') && !r.isEmpty && r.all isDigit
  | _ => false

/-- Whether a text has the form of a number with a point. -/
def isFloat (cs : List Char) : Bool :=
  let body := dropSign cs
  let whole := body.takeWhile fun c => isDigitOrBar c || c == ':'
  let rest := body.drop whole.length
  let words := [".inf", ".Inf", ".INF"].map String.toList
  let noNumber := [".nan", ".NaN", ".NAN"].map String.toList
  let pointed :=
    match whole, rest with
    | c :: w, '.' :: r =>
      let digits := w.takeWhile isDigitOrBar
      let groups := w.drop digits.length
      let tail := r.dropWhile isDigitOrBar
      isDigit c && (if groups.isEmpty then isExponent tail
        else tail.isEmpty && isSexagesimal groups)
    | _, _ => false
  let bare :=
    match cs with
    | '.' :: d :: r => isDigit d && isExponent (r.dropWhile isDigitOrBar)
    | _ => false
  words.contains body || noNumber.contains cs || pointed || bare

/-- One or two digits. -/
def takeShort (cs : List Char) : List Char × List Char :=
  let n := min 2 (cs.takeWhile isDigit).length
  (cs.take n, cs.drop n)

/-- A number of exactly `n` digits. -/
def takeExact (n : Nat) (cs : List Char) : Option (List Char × List Char) :=
  if (cs.take n).length = n ∧ (cs.take n).all isDigit then some (cs.take n, cs.drop n) else none

/-- The parts of a time: the day, and perhaps the time of day with its fraction and its zone. -/
structure TimeParts where
  year : List Char
  month : List Char
  day : List Char
  clock : Option (List Char × List Char × List Char)
  fraction : List Char
  zone : Option (Option Bool × List Char × List Char)

/-- A character that has to come next. -/
def takeChar (p : Char → Bool) : List Char → Option (List Char)
  | c :: r => if p c then some r else none
  | [] => none

/-- Whether a character is a space or a tab. -/
def isSpaceOrTab (c : Char) : Bool := c == ' ' || c == '\t'

/-- A zone at the end of a time: the letter for none, or a sign with hours and minutes. -/
def takeZone (cs : List Char) : Option (Option (Option Bool × List Char × List Char)) :=
  match cs.dropWhile isSpaceOrTab with
  | [] => if cs.isEmpty then some none else none
  | ['Z'] => some (some (none, [], []))
  | c :: r =>
    if c = '+' ∨ c = '-' then
      let (hours, r) := takeShort r
      if hours.isEmpty then none
      else
        match r with
        | [] => some (some (some (c == '-'), hours, []))
        | ':' :: t => do
          let (minutes, t) ← takeExact 2 t
          if t.isEmpty then some (some (some (c == '-'), hours, minutes)) else none
        | _ => none
    else none

/-- A time of day after a day. -/
def takeClock (year month day cs : List Char) : Option TimeParts := do
  let r ←
    match cs with
    | 'T' :: r => some r
    | 't' :: r => some r
    | c :: r => if isSpaceOrTab c then some (r.dropWhile isSpaceOrTab) else none
    | [] => none
  let (hour, r) := takeShort r
  if hour.isEmpty then none
  let (minute, r) ← takeExact 2 (← takeChar (· == ':') r)
  let (second, r) ← takeExact 2 (← takeChar (· == ':') r)
  let (fraction, r) :=
    match r with
    | '.' :: t => (t.takeWhile isDigit, t.dropWhile isDigit)
    | _ => ([], r)
  let zone ← takeZone r
  some ⟨year, month, day, some (hour, minute, second), fraction, zone⟩

/-- The parts of a text in the form of a time. A day alone may have short numbers only where
`short` says so. -/
def timeParts? (short : Bool) (cs : List Char) : Option TimeParts := do
  let (year, r) ← takeExact 4 cs
  let (month, r) := takeShort (← takeChar (· == '-') r)
  let (day, r) := takeShort (← takeChar (· == '-') r)
  if month.isEmpty ∨ day.isEmpty then none
  if r.isEmpty then
    if short ∨ (month.length = 2 ∧ day.length = 2) then
      some ⟨year, month, day, none, [], none⟩
    else none
  else takeClock year month day r

/-- A text without a line feed at its end. -/
def dropLineFeed (cs : List Char) : List Char :=
  if cs.getLast? = some '\n' then cs.dropLast else cs

/-- The kind of a text by its form. -/
def Tag.ofForm (cs : List Char) : Tag :=
  let s := String.ofList cs
  if boolWords.any fun w => (spellings w.1).contains s then .bool
  else if isFloat cs then .float
  else if isInteger cs then .int
  else if s = "<<" then .merge
  else if s = "~" ∨ (spellings "null").contains s then .null
  else if (timeParts? false cs).isSome then .timestamp
  else if s = "=" then .value
  else .text

/-- The kind of a plain scalar. A line feed at the end does not change it. -/
def Tag.ofPlain (s : String) : Tag :=
  if s.isEmpty then .null else .ofForm (dropLineFeed s.toList)

end Courier.Yaml
