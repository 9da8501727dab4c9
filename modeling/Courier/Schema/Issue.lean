/-!
# Issues

What is wrong with a value that should describe something: the place inside the value, and the
cause. Each cause has a short kind, for programs, and a message, for people.
-/

namespace Courier.Schema

/-- One step of the way into a value. -/
inductive Step where
  | field (name : String)
  | index (i : Int)
  deriving DecidableEq, Repr

/-- Why a value is refused. -/
inductive Cause where
  | missing
  | notText
  | notUnicode
  | notBool
  | unreadableBool
  | notInt
  | unreadableInt
  | fractionalInt
  | oversizedInt
  | notNumber
  | unreadableNumber
  | notFinite
  | notList
  | notMapping
  | notModel (name : String)
  | notOneOf (choices : List String)
  | unexpected
  | badKey
  | notAbove (bound : Int)
  | below (bound : Int)
  | above (bound : Int)
  | rule (text : String)
  deriving DecidableEq, Repr

/-- A place and a cause. -/
structure Issue where
  place : List Step
  cause : Cause
  deriving DecidableEq, Repr

/-- Choices in quotes, the last two joined by "or". -/
def choicesText : List String → String
  | [] => ""
  | [a] => "'" ++ a ++ "'"
  | [a, b] => "'" ++ a ++ "' or '" ++ b ++ "'"
  | a :: rest => "'" ++ a ++ "', " ++ choicesText rest

namespace Cause

/-- The kind of a cause. -/
def kind : Cause → String
  | missing => "missing"
  | notText => "string_type"
  | notUnicode => "string_unicode"
  | notBool => "bool_type"
  | unreadableBool => "bool_parsing"
  | notInt => "int_type"
  | unreadableInt => "int_parsing"
  | fractionalInt => "int_from_float"
  | oversizedInt => "int_parsing_size"
  | notNumber => "float_type"
  | unreadableNumber => "float_parsing"
  | notFinite => "finite_number"
  | notList => "list_type"
  | notMapping => "dict_type"
  | notModel _ => "model_type"
  | notOneOf _ => "enum"
  | unexpected => "extra_forbidden"
  | badKey => "invalid_key"
  | notAbove _ => "greater_than"
  | below _ => "greater_than_equal"
  | above _ => "less_than_equal"
  | rule _ => "value_error"

/-- The message of a cause. -/
def message : Cause → String
  | missing => "Field required"
  | notText => "Input should be a valid string"
  | notUnicode =>
    "Input should be a valid string, unable to parse raw data as a unicode string"
  | notBool => "Input should be a valid boolean"
  | unreadableBool => "Input should be a valid boolean, unable to interpret input"
  | notInt => "Input should be a valid integer"
  | unreadableInt => "Input should be a valid integer, unable to parse string as an integer"
  | fractionalInt => "Input should be a valid integer, got a number with a fractional part"
  | oversizedInt =>
    "Unable to parse input string as an integer, exceeded maximum size"
  | notNumber => "Input should be a valid number"
  | unreadableNumber => "Input should be a valid number, unable to parse string as a number"
  | notFinite => "Input should be a finite number"
  | notList => "Input should be a valid list"
  | notMapping => "Input should be a valid dictionary"
  | notModel name => "Input should be a valid dictionary or instance of " ++ name
  | notOneOf choices => "Input should be " ++ choicesText choices
  | unexpected => "Extra inputs are not permitted"
  | badKey => "Keys should be strings"
  | notAbove bound => s!"Input should be greater than {bound}"
  | below bound => s!"Input should be greater than or equal to {bound}"
  | above bound => s!"Input should be less than or equal to {bound}"
  | rule text => "Value error, " ++ text

end Cause

/-- A step as it stands in a dotted place. -/
def Step.text : Step → String
  | field name => name
  | index i => toString i

namespace Issue

/-- The same issue, seen from outside. -/
def under (step : Step) (i : Issue) : Issue :=
  { i with place := step :: i.place }

/-- The lines that report an issue: its place, if it has one, and its message and kind. -/
def lines (i : Issue) : List String :=
  (if i.place.isEmpty then [] else [".".intercalate (i.place.map Step.text)]) ++
    ["  " ++ i.cause.message ++ " [type=" ++ i.cause.kind ++ "]"]

/-- The report on all issues of a value that should describe a `name`. -/
def report (name : String) (issues : List Issue) : String :=
  let count := issues.length
  let head := toString count ++ " validation error" ++ (if count = 1 then "" else "s") ++
    " for " ++ name
  "\n".intercalate (head :: issues.flatMap lines)

end Issue

end Courier.Schema
