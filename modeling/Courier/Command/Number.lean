import Courier.Number.Layout
import Courier.Number.Numeral

/-!
# Numbers on the command line

A number of seconds, which must not be zero or less.
-/

namespace Courier.Command

/-- Why a text is no number of seconds. -/
inductive NumberError where
  | unreadable (text : String)
  | notPositive (x : Double)
  deriving DecidableEq, Repr

/-- The words for an error. -/
def NumberError.message : NumberError → String
  | .unreadable text => "Invalid number '" ++ text ++ "'."
  | .notPositive x => "Value must be positive, got " ++ x.toText ++ "."

/-- Reads a number of seconds (`positive_float`). What is no number at all is not zero or less. -/
def positiveNumber (s : String) : Except NumberError Double :=
  match Numeral.double? s with
  | none => .error (.unreadable s)
  | some x =>
    if x.lt (.zero false) || x.eq (.zero false) then .error (.notPositive x) else .ok x

end Courier.Command
