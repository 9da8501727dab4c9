import Courier.Number.Numeral
import Courier.Text.Blank
import Courier.Text.Lower

/-!
# Dates of cookies

The moment that a cookie expires at, in seconds from the beginning of 1970. The usual form is
`Sun, 06 Nov 1994 08:49:37 GMT`; looser forms may lack the weekday, the clock or the zone, write the
month as a number, or shorten the year. A moment before 1970 is none.
-/

namespace Courier.CookieDate

open Text Numeral

/-- The months, three letters each. -/
def monthNames : List String :=
  ["jan", "feb", "mar", "apr", "may", "jun", "jul", "aug", "sep", "oct", "nov", "dec"]

/-- The number of a month, by its name. -/
def monthOfName? (cs : List Char) : Option Nat :=
  let i := monthNames.idxOf (lowerAscii (String.ofList cs))
  if i < 12 then some (i + 1) else none

/-- Whether a year has a leap day. -/
def isLeap (year : Nat) : Bool :=
  year % 4 == 0 && (year % 100 != 0 || year % 400 == 0)

/-- The days of a year before the first of a month. -/
def daysBeforeMonth (year month : Nat) : Nat :=
  [0, 31, 59, 90, 120, 151, 181, 212, 243, 273, 304, 334].getD (month - 1) 0 +
    (if 2 < month && isLeap year then 1 else 0)

/-- The days from the first of January of the year 1 to the first of January of 1970. -/
def epochDays : Nat := 719162

/-- The days from the first of January of the year 1 to the first day of a month. -/
def daysBefore (year month : Nat) : Nat :=
  let y := year - 1
  y * 365 + y / 4 - y / 100 + y / 400 + daysBeforeMonth year month

/-- The seconds from the beginning of 1970 to a date with a clock; none where a part is out of its
range. Days past the end of a month run into the next. -/
def seconds? (year month day hour minute second : Nat) : Option Int :=
  if 1970 ≤ year ∧ year ≤ 9999 ∧ 1 ≤ month ∧ month ≤ 12 ∧ 1 ≤ day ∧ day ≤ 31 ∧ hour ≤ 24 ∧
      minute ≤ 59 ∧ second ≤ 61 then
    let days : Int := (daysBefore year month + (day - 1) : Nat) - (epochDays : Int)
    some (((days * 24 + hour) * 60 + minute) * 60 + second)
  else none

/-- The year of a moment. -/
def yearOf (now : Int) : Nat :=
  let days := now.toNat / 86400 + epochDays
  let guess := days / 366 + 1
  (List.range 32).foldl (fun y _ => if daysBefore (y + 1) 1 ≤ days then y + 1 else y) guess

/-- A year below 1000 as the one nearest to the present year that ends like it. -/
def fullYear (now : Int) (year : Nat) : Nat :=
  if 1000 ≤ year then year
  else
    let present := yearOf now
    let inCentury := present % 100
    let near := year + present - inCentury
    if year + 50 < inCentury then near + 100
    else if inCentury + 50 < year then near - 100
    else near

/-- The characters of a word: letters, digits and the underscore. -/
def isWordChar (c : Char) : Bool :=
  isDigit c || ('a' ≤ c && c ≤ 'z') || ('A' ≤ c && c ≤ 'Z') || c == '_'

/-- Whether `c` is a letter of ASCII. -/
def isLetter (c : Char) : Bool :=
  ('a' ≤ c && c ≤ 'z') || ('A' ≤ c && c ≤ 'Z')

/-- White space in these forms. -/
def isSpace (c : Char) : Bool := isAsciiBlank c

/-- The text after its white space. -/
def skipSpace (cs : List Char) : List Char := cs.dropWhile isSpace

/-- One or two digits, and the rest. -/
def takeShort (cs : List Char) : Option (Nat × List Char) :=
  match cs.takeWhile isDigit with
  | [] => none
  | [a] => some (ofDigits [a], cs.drop 1)
  | a :: b :: _ => some (ofDigits [a, b], cs.drop 2)

/-- Two digits, and the rest. -/
def takePair (cs : List Char) : Option (Nat × List Char) :=
  match cs with
  | a :: b :: r => if isDigit a && isDigit b then some (ofDigits [a, b], r) else none
  | _ => none

/-- What stands after white space, a hyphen or a slash. -/
def afterBreak (cs : List Char) : Option (List Char) :=
  match cs with
  | '-' :: r => some r
  | '/' :: r => some r
  | c :: _ => if isSpace c then some (skipSpace cs) else none
  | [] => none

/-- A clock with minutes and perhaps seconds, and the rest; midnight where there is none. -/
def takeClock (cs : List Char) : (Nat × Nat × Nat) × List Char :=
  let start := match cs with
    | ':' :: r => some r
    | c :: _ => if isSpace c then some (skipSpace cs) else none
    | [] => none
  let clock := do
    let (hour, r) ← takeShort (← start)
    match r with
    | ':' :: r =>
      let (minute, r) ← takePair r
      let noSeconds := ((hour, minute, 0), r)
      match r with
      | ':' :: s =>
        match takePair s with
        | some (second, s) => some ((hour, minute, second), s)
        | none => some noSeconds
      | _ => some noSeconds
    | _ => none
  clock.getD ((0, 0, 0), cs)

/-- A zone, in letters or as a signed number, and the rest. -/
def takeZone (cs : List Char) : Option (List Char) × List Char :=
  let letters := cs.takeWhile isLetter
  let (sign, unsigned) := match cs with
    | '+' :: r => (['+'], r)
    | '-' :: r => (['-'], r)
    | _ => ([], cs)
  let digits := (unsigned.takeWhile isDigit).take 4
  if 2 ≤ digits.length then (some (sign ++ digits), unsigned.drop digits.length)
  else
    let rest := cs.drop letters.length
    let isHalf := ["am", "pm"].contains (lowerAscii (String.ofList letters)) &&
      !(rest.head?.map isWordChar).getD false
    if letters.isEmpty || isHalf then (none, cs) else (some letters, rest)

/-- What stands after a word in parentheses. -/
def skipRemark (cs : List Char) : List Char :=
  match cs with
  | '(' :: r =>
    match r.takeWhile isWordChar, r.dropWhile isWordChar with
    | _ :: _, ')' :: s => skipSpace s
    | _, _ => cs
  | _ => cs

/-- The seconds by which a zone is ahead. -/
def zoneOffset? (zone : Option (List Char)) : Option Int :=
  match zone with
  | none => some 0
  | some cs =>
    if ["gmt", "utc", "ut", "z"].contains (lowerAscii (String.ofList cs)) then some 0
    else
      let (negative, digits) := takeSign true cs
      let value : Option Nat :=
        if digits.all isDigit then
          match digits with
          | [a] => some (3600 * ofDigits [a])
          | [a, b] => some (3600 * ofDigits [a, b])
          | [a, b, c] => some (3600 * ofDigits [a] + 60 * ofDigits [b, c])
          | [a, b, c, d] => some (3600 * ofDigits [a, b] + 60 * ofDigits [c, d])
          | _ => none
        else none
      value.map fun v => if negative then -(v : Int) else v

/-- The text without a weekday at its beginning. -/
def skipWeekday (cs : List Char) : List Char :=
  let day := lowerAscii (String.ofList (cs.take 3))
  if ["sun", "mon", "tue", "wed", "thu", "fri", "sat"].contains day then
    let r := (cs.drop 3).dropWhile isLetter
    skipSpace (match r with
      | ',' :: s => s
      | _ => r)
  else cs

/-- The number of a month that is written as a name or in digits. -/
def month? (cs : List Char) : Option Nat :=
  match monthOfName? cs with
  | some m => some m
  | none =>
    if !cs.isEmpty && cs.all isDigit then
      let m := ofDigits cs
      if 1 ≤ m && m ≤ 12 then some m else none
    else none

/-- Reads a date. Years of few digits are counted from the present century. -/
def read? (now : Int) (text : String) : Option Int := do
  let cs := skipWeekday (text.toList.dropWhile isBlankChar)
  let (day, r) ← takeShort cs
  let r ← afterBreak r
  let month := r.takeWhile isWordChar
  let r ← afterBreak (r.dropWhile isWordChar)
  let yearDigits := r.takeWhile isDigit
  if yearDigits.isEmpty then none
  let (clock, r) := takeClock (r.dropWhile isDigit)
  let (zone, r) := takeZone (skipSpace r)
  let r := skipRemark (skipSpace r)
  if !r.isEmpty then none
  let year := ofDigits yearDigits
  if 9999 < year then none
  let moment ← seconds? (fullYear now year) (← month? month) day clock.1 clock.2.1 clock.2.2
  return moment - (← zoneOffset? zone)

end Courier.CookieDate
