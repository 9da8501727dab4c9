import Courier.Evaluation.Subject

/-!
# Checks

Assertions applied to a response. A check gives no message if it holds; otherwise its message says
what was expected. Numbers are compared exactly, and a truth value is no number.
-/

namespace Courier

/-- Whether `part` stands somewhere in `whole`. -/
def occursIn (part : List Nat) : List Nat → Bool
  | [] => part.isEmpty
  | c :: r => part.isPrefixOf (c :: r) || occursIn part r

/-- The literal of a value in a message. -/
def literalOf (v : Data) : Except EvaluationFault String :=
  match v.literal? with
  | some s => .ok s
  | none => .error .unwritableNumber

/-- A value as running text in a message. -/
def displayOf (v : Data) : Except EvaluationFault CodeText :=
  match v.display? with
  | some s => .ok s
  | none => .error .unwritableNumber

namespace Assertion

/-- The expected value. A number that is compared with a text is compared by its digits. -/
def expected (a : Assertion) : Except EvaluationFault Data :=
  if (a.subject = .header ∨ a.subject = .body) ∧ isNumber a.value then do
    return .ofCodeText (← displayOf a.value)
  else .ok a.value

/-- Checks for equality (`_check_equal`). -/
def checkEqual (a : Assertion) (actual : Data) : Except EvaluationFault (Option CodeText) := do
  let expected ← a.expected
  if actual.same expected then return none
  else
    match a.subject with
    | .status =>
      return some ("Expected status " ++ (← displayOf expected) ++ ", got " ++
        (← displayOf actual))
    | .header =>
      return some ("Header '" ++ a.key.getD "None" ++ "' expected " ++ (← literalOf expected) ++
        ", got " ++ (← literalOf actual))
    | _ =>
      return some ("Expected " ++ (← literalOf actual) ++ " to equal " ++ (← literalOf expected))

/-- Whether both are numbers and the first stands to the second in the given order. -/
def ordered (order : Ordering) (actual bound : Data) : Bool :=
  isNumber actual && match actual.amount?, bound.amount? with
    | some x, some y => x.compare y == some order
    | _, _ => false

/-- Checks for an order (`_check_below`, `_check_above`). -/
def checkOrder (a : Assertion) (order : Ordering) (word : String) (actual : Data) :
    Except EvaluationFault (Option CodeText) := do
  if ordered order actual a.value then return none
  else
    return some ("Expected " ++ (← literalOf actual) ++ " to be " ++ word ++ " " ++
      (← displayOf a.value))

/-- Whether a text holds another. -/
def includes (actual part : Data) : Bool :=
  match actual.codes?, part.codes? with
  | some whole, some part => occursIn part whole
  | _, _ => false

/-- Checks for a part of a text (`_check_include`). -/
def checkInclude (a : Assertion) (actual : Data) : Except EvaluationFault (Option CodeText) := do
  if includes actual a.value then return none
  else
    return some ("Expected " ++ (← literalOf actual) ++ " to include " ++ (← literalOf a.value))

/-- Whether a mapping has an entry. -/
def hasEntry (actual name : Data) : Bool :=
  match actual with
  | .map entries => (Data.lookup? entries name).isSome
  | _ => false

/-- Checks for an entry of a mapping (`_check_property`). -/
def checkProperty (a : Assertion) (actual : Data) : Except EvaluationFault (Option CodeText) := do
  if hasEntry actual a.value then return none
  else return some ("Expected object to have property '" ++ (← displayOf a.value) ++ "'")

/-- Applies the operator to the value found. -/
def check (a : Assertion) (actual : Data) : Except EvaluationFault (Option CodeText) :=
  match a.op with
  | .equal => a.checkEqual actual
  | .below => a.checkOrder .lt "below" actual
  | .above => a.checkOrder .gt "above" actual
  | .includes => a.checkInclude actual
  | .property => a.checkProperty actual
  | .exist => .ok none

/-- The message where the response does not have the value (`_not_found_message`). -/
def notFoundMessage (a : Assertion) : CodeText :=
  match a.subject with
  | .header => "Header '" ++ a.key.getD "None" ++ "' not found"
  | _ => "No match for JSONPath '" ++ a.key.getD "None" ++ "'"

/-- What is wrong with the response, if anything. -/
def complaint (a : Assertion) (r : Response) : Except EvaluationFault (Option CodeText) :=
  match a.resolve r with
  | .error (.subject e) => .ok (some e.message)
  | .error (.fault f) => .error f
  | .ok none => .ok (some a.notFoundMessage)
  | .ok (some actual) => a.check actual

/-- The verdict on a response (`evaluate_assertion`). -/
def evaluate (a : Assertion) (r : Response) : Except EvaluationFault Verdict := do
  let message ← a.complaint r
  match a.label? with
  | some name => return ⟨name, message.isNone, message⟩
  | none => throw .unwritableNumber

end Assertion

/-- The verdicts on a response, in order (`evaluate_assertions`). -/
def evaluateAll (r : Response) : List Assertion → Except EvaluationFault (List Verdict)
  | [] => .ok []
  | a :: rest => do
    let verdict ← a.evaluate r
    return verdict :: (← evaluateAll r rest)

end Courier
