import Courier.Model.Request

/-!
# Assertions

A claim on one part of a response, the outcome of looking at it, and request files, which pair a
request with the assertions on its response.
-/

namespace Courier

open Schema

/-- The part of a response that an assertion is about (`AssertionSubject`). -/
inductive Subject where
  | status
  | header
  | body
  | json
  | responseTime
  deriving DecidableEq, Repr, Inhabited

namespace Subject

/-- The subjects with their names. -/
def names : List (String × Subject) :=
  [("status", .status), ("header", .header), ("body", .body), ("json", .json),
   ("responseTime", .responseTime)]

/-- The name of a subject. -/
def name : Subject → String
  | .status => "status"
  | .header => "header"
  | .body => "body"
  | .json => "json"
  | .responseTime => "responseTime"

/-- Other spellings: any case, and underscores anywhere. -/
def respell (s : String) : Option String :=
  let t := Text.lower (String.ofList (s.toList.filter (· != '_')))
  (names.find? fun n => Text.lowerAscii n.1 == t).map Prod.fst

/-- Reads a subject. -/
def read : Data → Check Subject :=
  asChoice names respell

/-- Whether an assertion on the subject has a key. -/
def isKeyed : Subject → Bool
  | .header | .json => true
  | _ => false

end Subject

/-- The comparison that an assertion makes (`AssertionOperator`). -/
inductive Operator where
  | equal
  | below
  | above
  | includes
  | exist
  | property
  deriving DecidableEq, Repr, Inhabited

namespace Operator

/-- The operators with their names. -/
def names : List (String × Operator) :=
  [("equal", .equal), ("below", .below), ("above", .above), ("include", .includes),
   ("exists", .exist), ("property", .property)]

/-- The name of an operator. -/
def name : Operator → String
  | .equal => "equal"
  | .below => "below"
  | .above => "above"
  | .includes => "include"
  | .exist => "exists"
  | .property => "property"

/-- Reads an operator, in its one spelling. -/
def read : Data → Check Operator :=
  asChoice names fun _ => none

end Operator

/-- A claim on one part of a response. The key names a header, or a path into a JSON body. -/
structure Assertion where
  name : Option CodeText
  subject : Subject
  key : Option CodeText
  op : Operator
  value : Data
  deriving Inhabited

namespace Assertion

/-- Whether an optional text is absent or empty. -/
def isBlankText : Option CodeText → Bool
  | none => true
  | some t => t.isEmpty

/-- Whether a value is a number; truth values are not. -/
def isNumber : Data → Bool
  | .int _ => true
  | .float _ => true
  | _ => false

/-- Whether a value is a text. -/
def isText : Data → Bool
  | .text _ => true
  | .brokenText _ => true
  | _ => false

/-- The first rule on the operands that an assertion breaks. -/
def operandFault? (a : Assertion) : Option String :=
  if a.subject = .header ∧ isBlankText a.key then some "header assertions need a key"
  else if a.key.isSome ∧ ¬ a.subject.isKeyed then
    some ("key is not used with " ++ a.subject.name ++ " assertions")
  else if (a.op = .below ∨ a.op = .above) ∧ ¬ isNumber a.value then
    some (a.op.name ++ " needs a numeric value")
  else if (a.op = .includes ∨ a.op = .property) ∧ ¬ isText a.value then
    some (a.op.name ++ " needs a string value")
  else none

/-- Refuses an assertion that breaks a rule on its operands (`check_operands`). -/
def checkOperands (a : Assertion) : Check Assertion :=
  match a.operandFault? with
  | some text => .refuse (.rule text)
  | none => .accepted a

/-- All fields. -/
def fields : List FieldName :=
  [.plain "name", .plain "subject", .plain "key", .plain "op", .plain "value"]

/-- Reads an assertion; no other entries are allowed. -/
def read (v : Data) : Check Assertion :=
  ((asRecord "Assertion" v).andThen fun r =>
    (fun name subject key op value (_ : Unit) => Assertion.mk name subject key op value)
      <$> (FieldName.plain "name").optional none (asOptionalText false) r
      <*> (FieldName.plain "subject").required Subject.read r
      <*> (FieldName.plain "key").optional none (asOptionalText false) r
      <*> (FieldName.plain "op").optional .equal Operator.read r
      <*> (FieldName.plain "value").optional .null .accepted r
      <*> onlyFields fields r).andThen checkOperands

/-- The assertion as a mapping. -/
def dump (a : Assertion) : Data :=
  .map [(.text "name", optionalText a.name), (.text "subject", .text a.subject.name),
    (.text "key", optionalText a.key), (.text "op", .text a.op.name), (.text "value", a.value)]

/-- The name of an assertion, or else its parts (`label`). There is none where the expected value
holds an integer of too many digits. -/
def label? (a : Assertion) : Option CodeText :=
  if isBlankText a.name then do
    let key : List CodeText := if isBlankText a.key then [] else [a.key.getD []]
    let value : List CodeText ←
      if a.op = .exist then some [] else (a.value.literal?).map fun s => [.ofString s]
    some ((" " : CodeText).intercalate
      ([.ofString a.subject.name] ++ key ++ [.ofString a.op.name] ++ value))
  else a.name

end Assertion

/-- The outcome of an assertion (`AssertionResult`); the message says why it failed. -/
structure Verdict where
  name : CodeText
  passed : Bool
  message : Option CodeText
  deriving DecidableEq, Repr, Inhabited

namespace Verdict

/-- All fields. -/
def fields : List FieldName := [.plain "name", .plain "passed", .plain "message"]

/-- Reads a verdict; no other entries are allowed. -/
def read (v : Data) : Check Verdict :=
  (asRecord "AssertionResult" v).andThen fun r =>
    (fun name passed message (_ : Unit) => Verdict.mk name passed message)
      <$> (FieldName.plain "name").required (asText false) r
      <*> (FieldName.plain "passed").required asBool r
      <*> (FieldName.plain "message").optional none (asOptionalText false) r
      <*> onlyFields fields r

/-- The verdict as a mapping. -/
def dump (v : Verdict) : Data :=
  .map [(.text "name", .ofCodeText v.name), (.text "passed", .bool v.passed),
    (.text "message", optionalText v.message)]

/-- The line on one verdict. -/
def line (v : Verdict) : CodeText :=
  if v.passed then "  PASS " ++ v.name
  else "  FAIL " ++ v.name ++ ": " ++ v.message.getD "None"

/-- The lines on all verdicts, and a tally (`format_assertion_results`). -/
def report (vs : List Verdict) : CodeText :=
  let failed := vs.countP fun v => !v.passed
  ("\n" : CodeText).intercalate (vs.map line ++
    [.ofString s!"Assertions: {vs.length - failed} passed, {failed} failed"])

end Verdict

/-- A request with the assertions on its response. -/
structure RequestFile where
  request : Request
  assertions : List Assertion
  deriving Inhabited

namespace RequestFile

/-- Reads a request file. -/
def read (v : Data) : Check RequestFile :=
  (asRecord "RequestFile" v).andThen fun r =>
    RequestFile.mk <$> (FieldName.plain "request").required Request.read r
      <*> (FieldName.plain "assertions").optional [] (asList Assertion.read) r

/-- The request file as a mapping. -/
def dump (f : RequestFile) : Data :=
  .map [(.text "request", f.request.dump),
    (.text "assertions", dumpList Assertion.dump f.assertions)]

end RequestFile

end Courier
