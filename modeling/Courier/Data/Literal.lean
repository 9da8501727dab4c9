import Courier.Data.Basic
import Courier.Number.Layout
import Courier.Number.Numeral
import Courier.Text.Quoted

/-!
# Literals

A value written out as a literal, as messages quote it. An integer of more than `maxDigits` digits has
no literal: converting it would take quadratic time, so it is refused.
-/

namespace Courier

/-- Whether an integer has few enough digits to be written. -/
def isWritable (n : Int) : Bool :=
  decide (n.natAbs < Nat.pow 10 maxDigits)

/-- The words for an integer that cannot be written. -/
def unwritableMessage : String :=
  "Exceeds the limit (4300 digits) for integer string conversion; " ++
    "use sys.set_int_max_str_digits() to increase the limit"

/-- The words for an integer that cannot be read, since it has this many digits. -/
def unreadableMessage (digits : Nat) : String :=
  "Exceeds the limit (4300 digits) for integer string conversion: value has " ++
    toString digits ++ " digits; use sys.set_int_max_str_digits() to increase the limit"

/-- `n` in decimal, with zeros in front up to `width`. -/
def padded (width n : Nat) : String :=
  let digits := Nat.toDigits 10 n
  String.ofList (List.replicate (width - digits.length) '0' ++ digits)

/-- A span of seconds as a literal. -/
def spanLiteral (seconds : Int) : String :=
  let days := seconds / 86400
  let rest := seconds % 86400
  let parts := (if days = 0 then [] else ["days=" ++ toString days]) ++
    (if rest = 0 then [] else ["seconds=" ++ toString rest])
  "datetime.timedelta(" ++ (if parts.isEmpty then "0" else ", ".intercalate parts) ++ ")"

/-- A zone as a literal. -/
def zoneLiteral (offset : Int) : String :=
  if offset = 0 then "datetime.timezone.utc"
  else "datetime.timezone(" ++ spanLiteral offset ++ ")"

/-- A day as a literal. -/
def Day.literal (d : Day) : String :=
  s!"datetime.date({d.year}, {d.month}, {d.day})"

/-- A moment as a literal; seconds and microseconds are left out from the end while zero. -/
def Moment.literal (m : Moment) : String :=
  let fine :=
    if m.micro ≠ 0 then [m.second, m.micro] else if m.second ≠ 0 then [m.second] else []
  let numbers := [m.day.year, m.day.month, m.day.day, m.hour, m.minute] ++ fine
  let zone := match m.offset with
    | none => []
    | some z => ["tzinfo=" ++ zoneLiteral z]
  "datetime.datetime(" ++ ", ".intercalate (numbers.map toString ++ zone) ++ ")"

/-- A day in the international form. -/
def Day.display (d : Day) : String :=
  padded 4 d.year ++ "-" ++ padded 2 d.month ++ "-" ++ padded 2 d.day

/-- A moment in the international form. -/
def Moment.display (m : Moment) : String :=
  let fraction := if m.micro = 0 then "" else "." ++ padded 6 m.micro
  let zone := match m.offset with
    | none => ""
    | some z =>
      let minutes := z.natAbs / 60
      (if z < 0 then "-" else "+") ++ padded 2 (minutes / 60) ++ ":" ++ padded 2 (minutes % 60)
  m.day.display ++ " " ++ padded 2 m.hour ++ ":" ++ padded 2 m.minute ++ ":" ++
    padded 2 m.second ++ fraction ++ zone

namespace Data

mutual

/-- The literal of a value, unless it holds an integer of too many digits. -/
def literal? : Data → Option String
  | .null => some "None"
  | .bool b => some (if b then "True" else "False")
  | .int n => if isWritable n then some (toString n) else none
  | .float x => some x.toText
  | .text s => some (Text.quoted s)
  | .brokenText codes => some (Text.quotedCodes codes)
  | .bytes bs => some (Text.quotedBytes bs)
  | .list items => do some ("[" ++ ", ".intercalate (← literals? items) ++ "]")
  | .map entries => do some ("\x7b" ++ ", ".intercalate (← entryLiterals? entries) ++ "\x7d")
  | .set [] => some "set()"
  | .set members => do some ("\x7b" ++ ", ".intercalate (← literals? members) ++ "\x7d")
  | .pair a b => do some ("(" ++ (← literal? a) ++ ", " ++ (← literal? b) ++ ")")
  | .day d => some d.literal
  | .moment m => some m.literal

/-- The literals of items. -/
def literals? : List Data → Option (List String)
  | [] => some []
  | x :: xs => do some ((← literal? x) :: (← literals? xs))

/-- The literals of entries. -/
def entryLiterals? : List (Data × Data) → Option (List String)
  | [] => some []
  | (k, v) :: rest => do
    some (((← literal? k) ++ ": " ++ (← literal? v)) :: (← entryLiterals? rest))

end

/-- A value as running text: a text is itself, other values are their literals. -/
def display? : Data → Option CodeText
  | .text s => some s
  | .brokenText codes => some (.ofCodes codes)
  | .day d => some d.display
  | .moment m => some m.display
  | v => v.literal?.map CodeText.ofString

end Data

end Courier
