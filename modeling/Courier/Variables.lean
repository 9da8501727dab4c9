import Courier.Model.Environment
import Courier.Model.Request
import Courier.Text.Template

/-!
# Variables

References in double braces, resolved by the enabled variables of an environment and then by the
global ones. The name of a reference is its text without white space at the ends. A reference
without a value stays as it stands.
-/

namespace Courier

open Text

/-- Where variables are looked up: those of an environment, then the global ones. -/
structure Scope where
  environment : Option Environment
  globals : List Entry
  deriving Inhabited

namespace Scope

/-- All variables, in the order in which they count (`_all_variables`). -/
def entries (s : Scope) : List Entry :=
  (match s.environment with
    | some e => e.entries
    | none => []) ++ s.globals

/-- The value of the first enabled variable of a name (`_lookup`). -/
def lookup? (vars : List Entry) (name : CodeText) : Option CodeText :=
  (vars.find? fun v => v.enabled && v.key == name).map Entry.value

end Scope

/-- The name that a reference means. -/
def referenceName (raw : CodeText) : CodeText :=
  trimWhile (CodePoint.satisfies isBlankChar) raw

/-- A piece with its reference resolved. -/
def resolveSegment (vars : List Entry) (seg : Segment CodePoint) : CodeText :=
  match seg with
  | .plain c => [c]
  | .reference raw =>
    match Scope.lookup? vars (referenceName raw) with
    | some value => value
    | none => seg.source Marks.doubled

/-- A text with its references resolved (`substitute_variables`). -/
def substitute (scope : Scope) (text : CodeText) : CodeText :=
  (segments Marks.doubled text).flatMap (resolveSegment scope.entries)

/-- The names that a text refers to, in order and with repetitions (`get_variable_references`). -/
def references (text : CodeText) : List CodeText :=
  (referenceNames (segments Marks.doubled text)).map referenceName

/-- Which of the names have no value (`_check_references`). -/
def checkReferences (scope : Scope) (names : List CodeText) : VariableCheck :=
  ⟨names, names.filter fun n => (Scope.lookup? scope.entries n).isNone⟩

/-- Which references of a text have no value (`validate_variables`). -/
def checkText (scope : Scope) (text : CodeText) : VariableCheck :=
  checkReferences scope (references text)

/-- The first occurrence of each name. -/
def firstOccurrences (names : List CodeText) : List CodeText :=
  names.foldl (fun seen n => if seen.contains n then seen else seen ++ [n]) []

namespace Request

/-- An entry with name and value resolved. -/
def substituteEntry (scope : Scope) (e : Entry) : Entry :=
  { e with key := substitute scope e.key, value := substitute scope e.value }

/-- A form field with its value resolved; its name stays as written. -/
def substituteField (scope : Scope) (e : Entry) : Entry :=
  { e with value := substitute scope e.value }

/-- The request with references resolved in the URL, in names and values of headers and parameters,
in the body's content and in the values of form fields (`substitute_request`). -/
def substitute (scope : Scope) (r : Request) : Request :=
  { r with
    url := Courier.substitute scope r.url
    headers := r.headers.map (substituteEntry scope)
    params := r.params.map (substituteEntry scope)
    body := { r.body with
      content := r.body.content.map (Courier.substitute scope)
      formData := r.body.formData.map fun fields => fields.map (substituteField scope) } }

/-- The texts in which references count, in order. -/
def substitutedTexts (r : Request) : List CodeText :=
  [r.url] ++ (r.headers ++ r.params).flatMap (fun e => [e.key, e.value]) ++
    r.body.content.toList ++ (r.body.formData.getD []).map Entry.value

/-- The names that a request refers to, each once (`request_variable_references`). -/
def references (r : Request) : List CodeText :=
  firstOccurrences (r.substitutedTexts.flatMap Courier.references)

/-- Which references of a request have no value (`validate_request_variables`). -/
def checkVariables (scope : Scope) (r : Request) : VariableCheck :=
  checkReferences scope r.references

end Request

end Courier
