import Courier.Json.Reader
import Courier.JsonPath.Find
import Courier.Model.Assertion
import Courier.Model.Response

/-!
# Subjects

The value that an assertion is about. A body that is not JSON and a path that is none are problems
of the assertion, which then fails. A few faults are not outcomes of an assertion at all: numbers
of too many digits and paths that ask for what there is not.
-/

namespace Courier

/-- Why a subject cannot be resolved. -/
inductive SubjectError where
  | notJson
  | badPath (path : CodeText) (e : JsonPath.PathError)
  deriving DecidableEq, Repr

/-- The words for an error. -/
def SubjectError.message : SubjectError → CodeText
  | .notJson => "Response body is not valid JSON"
  | .badPath path e => "Invalid JSONPath '" ++ path ++ "': " ++ e.message

/-- A fault that ends the evaluation. -/
inductive EvaluationFault where
  /-- A number to be read has this many digits. -/
  | unreadableNumber (digits : Nat)
  /-- A number to be shown has too many digits. -/
  | unwritableNumber
  | path (e : JsonPath.FindError)
  deriving DecidableEq, Repr

/-- The words for a fault. -/
def EvaluationFault.message : EvaluationFault → String
  | .unreadableNumber digits => unreadableMessage digits
  | .unwritableNumber => unwritableMessage
  | .path .noParent => ""
  | .path .unsupported => ""
  | .path .zeroStep => "slice step cannot be zero"

/-- Either of the two. -/
inductive ResolveError where
  | subject (e : SubjectError)
  | fault (f : EvaluationFault)
  deriving DecidableEq, Repr

/-- A body as JSON (`_parse_json_body`); an empty one is an empty object. -/
def parseBody (body : String) : Except ResolveError Data :=
  match Json.read (if body.isEmpty then "\x7b\x7d" else body) with
  | .ok v => .ok v
  | .error .malformed => .error (.subject .notJson)
  | .error (.tooManyDigits n) => .error (.fault (.unreadableNumber n))

/-- A path (`_compile_jsonpath`). -/
def parsePath (path : CodeText) : Except ResolveError JsonPath :=
  match JsonPath.parse path with
  | .ok p => .ok p
  | .error (.tooManyDigits n) => .error (.fault (.unreadableNumber n))
  | .error e => .error (.subject (.badPath path e))

/-- The value of a header. A name with a surrogate is that of none. -/
def Response.header? (r : Response) (name : CodeText) : Option String := do
  let name ← name.toString?
  (r.headers.find? fun h => h.1 == Text.lower name).map Prod.snd

/-- The value that an assertion is about, if the response has it (`resolve_subject`). -/
def Assertion.resolve (a : Assertion) (r : Response) : Except ResolveError (Option Data) :=
  match a.subject with
  | .status => .ok (some (.int r.status))
  | .responseTime => .ok (some (.int r.time))
  | .body => .ok (some (.text r.body))
  | .header => .ok ((r.header? (a.key.getD [])).map .text)
  | .json => do
    let document ← parseBody r.body
    if Assertion.isBlankText a.key then return some document
    else
      let path ← parsePath (a.key.getD [])
      match path.first? document with
      | .ok found => return found
      | .error e => throw (.fault (.path e))

end Courier
