import Courier.Model.Entry
import Courier.Text.Digit
import Courier.Text.Form
import Courier.Url.Read

/-!
# Targets

The URL that a request goes to. What its author typed may lack a scheme if it is an address on the
local machine or begins with a digit. The URL must be absolute, and active parameters are appended
to its query, which otherwise stays as it is.
-/

namespace Courier

/-- Why there is no target. -/
inductive TargetError where
  /-- The text is no URL. -/
  | malformed (e : Url.Error)
  /-- The URL has no scheme. -/
  | relative (url : CodeText)
  /-- The URL has no host. -/
  | noHost (url : CodeText)
  /-- An encoded host does not decode. -/
  | unreadableHost
  /-- The URL with its parameters is none. -/
  | unfitQuery (e : Url.Error)
  /-- The URL or a parameter has a surrogate where it is escaped. -/
  | unwritable (fault : Text.EncodingFault)
  deriving DecidableEq, Repr

/-- The words for an error. -/
def TargetError.message : TargetError → String
  | .malformed e => "Invalid URL: " ++ e.message
  | .relative url => "Invalid URL: relative URL without a base: " ++ url.quoted
  | .noHost url => "Invalid URL: empty host: " ++ url.quoted
  | .unreadableHost => ""
  | .unfitQuery e => e.message
  | .unwritable fault => fault.message

namespace Target

/-- Whether a text is an address without a scheme. -/
def isBare (t : CodeText) : Bool :=
  ("localhost:" : CodeText).isPrefixOf t || t.head?.any (·.satisfies Text.isDigitChar)

/-- The text with a scheme in front of a bare address (`normalize_url`). -/
def normalize (t : CodeText) : CodeText :=
  if isBare t then "http://" ++ t else t

/-- Reads a URL that has a scheme and a host (`parse_url`). -/
def parse (t : CodeText) : Except TargetError Url :=
  match Url.read t with
  | .error (.invalid e) => .error (.malformed e)
  | .error (.unwritable fault) => .error (.unwritable fault)
  | .ok u =>
    if u.scheme.isEmpty then .error (.relative t)
    else
      match u.readableHost? with
      | none => .error .unreadableHost
      | some host => if host.isEmpty then .error (.noHost t) else .ok u

/-- Pairs with those of one name side by side, names in order of their first appearance. -/
def groupByName (pairs : List (CodeText × CodeText)) : List (CodeText × CodeText) :=
  (pairs.map Prod.fst).eraseDups.flatMap fun name => pairs.filter fun p => p.1 == name

/-- The text that parameters add to a query. -/
def appendedText (pairs : List (CodeText × CodeText)) : Except Text.EncodingFault String :=
  (CodeText.utf8Pairs (groupByName pairs)).map fun pairs => String.ofList (Text.formEncode pairs)

/-- Appends the active parameters to the query (`add_query_params`). -/
def addParams (u : Url) (params : List Entry) : Except TargetError Url :=
  let pairs := activePairs params
  if pairs.isEmpty then .ok u
  else
    match appendedText pairs with
    | .error fault => .error (.unwritable fault)
    | .ok appended =>
      let existing := u.query.getD ""
      let query := if existing.isEmpty then appended else existing ++ "&" ++ appended
      match u.withQuery query with
      | .ok v => .ok v
      | .error e => .error (.unfitQuery e)

/-- The target of a request (`build_url`). -/
def build (url : CodeText) (params : List Entry) : Except TargetError Url := do
  addParams (← parse (normalize url)) params

end Target

end Courier
