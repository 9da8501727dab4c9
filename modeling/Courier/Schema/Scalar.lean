import Courier.Data.Literal
import Courier.Number.Layout
import Courier.Number.Numeral
import Courier.Schema.Check
import Courier.Text.Lower
import Courier.Text.Utf8

/-!
# Scalars

How a value is taken for a text, a truth value, an integer, a number or one of several choices.
Some spellings of another type are accepted: numbers in words, words for truth values, and, where
`coerce` says so, numbers for texts.
-/

namespace Courier.Schema

/-- White space in the sense of numerals: separators of information do not count. -/
def isNumeralBlank (c : Char) : Bool :=
  Text.isBlankChar c && !(0x1C ≤ c.toNat && c.toNat ≤ 0x1F)

/-- A value as a text. Bytes count if they are UTF-8; numbers only where `coerce` is set, and then an
integer of too many digits ends the reading. -/
def asText (coerce : Bool) : Data → Check CodeText
  | .text s => .accepted s
  | .brokenText codes => .accepted (.ofCodes codes)
  | .bytes bs =>
    match Text.Utf8.decode? bs with
    | some s => .accepted s
    | none => .refuse .notUnicode
  | .int n =>
    if coerce then if isWritable n then .accepted (toString n) else .refused .overlong
    else .refuse .notText
  | .float x => if coerce then .accepted x.toText else .refuse .notText
  | _ => .refuse .notText

/-- A value as a text, null standing for none. -/
def asOptionalText (coerce : Bool) : Data → Check (Option CodeText)
  | .null => .accepted none
  | v => (asText coerce v).map some

/-- A value as a text of characters. -/
def asCharacters (v : Data) : Check String :=
  (asText false v).andThen fun t =>
    match t.toString? with
    | some s => .accepted s
    | none => .refuse .notUnicode

/-- Words for false. -/
def falseWords : List String := ["0", "off", "f", "false", "n", "no"]

/-- Words for true. -/
def trueWords : List String := ["1", "on", "t", "true", "y", "yes"]

/-- A text as a truth value. -/
def boolWord (s : String) : Check Bool :=
  let w := Text.lowerAscii s
  if falseWords.contains w then .accepted false
  else if trueWords.contains w then .accepted true
  else .refuse .unreadableBool

/-- An integer as a truth value. -/
def boolInt (n : Int) : Check Bool :=
  if n = 0 then .accepted false else if n = 1 then .accepted true else .refuse .unreadableBool

/-- Whether an integer has the size of a machine word. -/
def isWord (n : Int) : Bool :=
  decide (-(Nat.pow 2 63 : Int) ≤ n ∧ n < Nat.pow 2 63)

/-- A value as a truth value. -/
def asBool : Data → Check Bool
  | .bool b => .accepted b
  | .text s => boolWord s
  | .bytes bs =>
    match Text.Utf8.decode? bs with
    | some s => boolWord s
    | none => .refuse .unreadableBool
  | .brokenText _ => .refuse .notUnicode
  | .int n => if isWord n then boolInt n else .refuse .notBool
  | .float x =>
    match x.integral? with
    | some n => if isWord n then boolInt n else .refuse .notBool
    | none => .refuse .notBool
  | _ => .refuse .notBool

/-- Whether two underscores stand side by side. -/
def hasDoubleUnderscore : List Char → Bool
  | '_' :: '_' :: _ => true
  | _ :: r => hasDoubleUnderscore r
  | [] => false

/-- Drops underscores, unless one stands at an end or two stand side by side. -/
def dropSingleUnderscores (cs : List Char) : List Char :=
  if cs.head? = some '_' ∨ cs.getLast? = some '_' ∨ hasDoubleUnderscore cs then cs
  else cs.filter (· != '_')

/-- Drops zeros in front of an integer numeral, and a sign `+`; none where no digit leads. -/
def integerBody? (cs : List Char) : Option (List Char) :=
  let zeros (r : List Char) : Option (List Char) :=
    let rest := r.dropWhile fun c => c == '0' || c == '_'
    match rest with
    | [] => if r.getLast? = some '_' then none else some ['0']
    | c :: _ =>
      if Numeral.isDigit c then some rest
      else if c == '.' then some ('0' :: rest)
      else none
  let start (r : List Char) : Option (List Char) :=
    match r with
    | '0' :: t => if t.isEmpty then some r else zeros r
    | '-' :: _ => some r
    | c :: _ => if Numeral.isDigit c then some r else none
    | [] => none
  match cs with
  | '+' :: r => if r.head? = some '-' then none else start r
  | _ => start cs

/-- The numeral without a fraction of zeros. -/
def dropZeroFraction (cs : List Char) : List Char :=
  let whole := cs.takeWhile (· != '.')
  if (cs.drop (whole.length + 1)).all (· == '0') then whole else cs

/-- A text as an integer. -/
def integerWord (s : String) : Check Int :=
  match integerBody? (Text.trimWhile isNumeralBlank s.toList) with
  | none => .refuse .unreadableInt
  | some body =>
    let body := dropZeroFraction body
    let bare := dropSingleUnderscores body
    if maxDigits < bare.length then .refuse .oversizedInt
    else
      let (negative, digits) := Numeral.takeSign false bare
      if digits.isEmpty || !digits.all Numeral.isDigit then .refuse .unreadableInt
      else .accepted (Numeral.ofSignedDigits negative digits)

/-- A value as an integer. -/
def asInt : Data → Check Int
  | .bool b => .accepted (if b then 1 else 0)
  | .int n => .accepted n
  | .text s => integerWord s
  | .brokenText _ => .refuse .notUnicode
  | .bytes bs =>
    match Text.Utf8.decode? bs with
    | some s => integerWord s
    | none => .refuse .unreadableInt
  | .float x =>
    match x.integral? with
    | some n => if isWord n then .accepted n else .refuse .oversizedInt
    | none => if x.isFinite then .refuse .fractionalInt else .refuse .notFinite
  | _ => .refuse .notInt

/-- Requires an integer to lie in a range. -/
def inRange (least : Int) (greatest : Option Int) (n : Int) : Check Int :=
  match greatest with
  | some g => if g < n then .refuse (.above g) else if n < least then .refuse (.below least)
    else .accepted n
  | none => if n < least then .refuse (.below least) else .accepted n

/-- A text as a number. -/
def numberWord (s : String) : Check Double :=
  let cs := Text.trimWhile isNumeralBlank s.toList
  match Numeral.signedDouble? (dropSingleUnderscores cs) with
  | some x => .accepted x
  | none => .refuse .unreadableNumber

/-- A value as a number. -/
def asNumber : Data → Check Double
  | .float x => .accepted x
  | .int n =>
    let x := Double.ofInt n
    if x.isFinite then .accepted x else .refuse .notNumber
  | .bool b => .accepted (Double.ofInt (if b then 1 else 0))
  | .text s => numberWord s
  | .brokenText _ => .refuse .notUnicode
  | .bytes bs =>
    match Text.Utf8.decode? bs with
    | some s => numberWord s
    | none => .refuse .unreadableNumber
  | _ => .refuse .notNumber

/-- A value as one of the named choices. A spelling that is none of the names may still stand for
one of them, by `respell`. -/
def asChoice {α : Type} (choices : List (String × α)) (respell : String → Option String)
    (v : Data) : Check α :=
  let find (s : String) : Option α := (choices.find? fun c => c.1 == s).map Prod.snd
  let found := match v with
    | .text s => (find s).orElse fun _ => (respell s).bind find
    | .bytes bs => (Text.Utf8.decode? bs).bind find
    | _ => none
  match found with
  | some a => .accepted a
  | none => .refuse (.notOneOf (choices.map Prod.fst))

/-- The items of a list; sets and pairs count as lists. -/
def asItems : Data → Check (List Data)
  | .list xs => .accepted xs
  | .set xs => .accepted xs
  | .pair a b => .accepted [a, b]
  | _ => .refuse .notList

/-- A list of values that `f` reads. -/
def asList {α : Type} (f : Data → Check α) (v : Data) : Check (List α) :=
  (asItems v).andThen (Check.each f 0)

end Courier.Schema
